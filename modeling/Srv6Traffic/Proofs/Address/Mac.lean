import Mathlib.Data.List.Forall2
import Srv6Traffic.Address.Mac
import Srv6Traffic.Proofs.Text.Hex
import Srv6Traffic.Proofs.Text.Parts

/-! The texts of link-layer addresses: six groups between colons, each the text of an octet. What is read from a
text is written as the text in lower case. A sign in the place of a digit comes out as a zero. -/
namespace Srv6Traffic
open Hex

theorem mapM_eq_some_iff {α β : Type} {f : α → Option β} {xs : List α} {ys : List β} :
    xs.mapM f = some ys ↔ List.Forall₂ (fun x y => f x = some y) xs ys := by
  induction xs generalizing ys with
  | nil =>
    rw [List.mapM_nil, List.forall₂_nil_left_iff]
    exact ⟨fun same => (Option.some.inj same).symm, fun none => by rw [none]; rfl⟩
  | cons x xs ih =>
    rw [List.mapM_cons, List.forall₂_cons_left_iff]
    constructor
    · intro done
      obtain ⟨y, first, rest⟩ := Option.bind_eq_some_iff.1 done
      obtain ⟨tail, others, same⟩ := Option.bind_eq_some_iff.1 rest
      exact ⟨y, tail, first, ih.1 others, (Option.some.inj same).symm⟩
    · rintro ⟨y, tail, first, others, rfl⟩
      rw [first, ih.2 others]
      rfl

namespace Mac
variable {text : List Char} {mac : Mac}

/-- Six texts of one kind, with single colons between them. -/
def SixGroups (kind : List Char → Prop) (text : List Char) : Prop :=
  ∃ groups : List (List Char), groups.length = 6 ∧ (∀ group ∈ groups, kind group) ∧
    [':'].intercalate groups = text

theorem colon_notMem {group : List Char} (taken : Group group) : ':' ∉ group := by
  have apart : ∀ {c}, IsDigit c → c ≠ ':' := by
    rintro c h rfl
    revert h
    decide
  cases taken with
  | digits two =>
    obtain ⟨h, l⟩ := two
    simp [(apart h).symm, (apart l).symm]
  | signed l => simp [(apart l).symm]

theorem groups_of_octets {groups : List (List Char)} {octets : Bytes}
    (read : List.Forall₂ (fun group b => octet? group = some b) groups octets) : ∀ group ∈ groups, Group group :=
  ((List.forall₂_and_left _ _).1 (read.imp fun _ _ done => ⟨group_of_octet? done, done⟩)).1

/-- The groups of a text and the octets that they give. -/
theorem parseChars?_eq_some_iff : parseChars? text = some mac ↔ ∃ groups : List (List Char),
    List.Forall₂ (fun group b => octet? group = some b) groups mac.octets.val ∧
      [':'].intercalate groups = text := by
  constructor
  · intro done
    obtain ⟨octets, read, rest⟩ := Option.bind_eq_some_iff.1 done
    split at rest
    · obtain rfl := Option.some.inj rest
      exact ⟨_, mapM_eq_some_iff.1 read, (Text.separates_iff.2 rfl).joined⟩
    · contradiction
  · rintro ⟨groups, read, joined⟩
    have count : groups.length = 6 := read.length_eq.trans mac.octets.property
    have free : ∀ group ∈ groups, ':' ∉ group :=
      fun group there => colon_notMem (groups_of_octets read group there)
    have nonempty : groups ≠ [] := List.ne_nil_of_length_pos (by omega)
    rw [parseChars?, Text.separates_iff.1 ⟨nonempty, free, joined⟩, mapM_eq_some_iff.2 read]
    exact dif_pos mac.octets.property

theorem sixGroups_of_parseChars? (done : parseChars? text = some mac) : SixGroups Group text := by
  obtain ⟨groups, read, joined⟩ := parseChars?_eq_some_iff.1 done
  exact ⟨groups, read.length_eq.trans mac.octets.property, groups_of_octets read, joined⟩

theorem exists_parseChars? (six : SixGroups Group text) : ∃ mac, parseChars? text = some mac := by
  obtain ⟨groups, count, taken, joined⟩ := six
  obtain ⟨octets, read⟩ : ∃ octets : Bytes, List.Forall₂ (fun group b => octet? group = some b) groups octets := by
    clear count joined
    induction groups with
    | nil => exact ⟨[], .nil⟩
    | cons group groups ih =>
      obtain ⟨b, first, _⟩ := octet?_of_group (taken group List.mem_cons_self)
      obtain ⟨rest, others⟩ := ih fun other there => taken other (List.mem_cons_of_mem _ there)
      exact ⟨b :: rest, .cons first others⟩
  exact ⟨⟨octets, read.length_eq.symm.trans count⟩, parseChars?_eq_some_iff.2 ⟨groups, read, joined⟩⟩

/-- The text of what was read is the text that it was read from, in lower case and with a zero for a sign. -/
theorem text_of_parseChars? (done : parseChars? text = some mac) : mac.text = text.map lowered := by
  obtain ⟨groups, read, rfl⟩ := parseChars?_eq_some_iff.1 done
  have shown : mac.octets.val.map octet = groups.map (List.map lowered) := by
    rw [← List.forall₂_eq_eq_eq, List.forall₂_map_left_iff, List.forall₂_map_right_iff]
    refine read.flip.imp fun b group done => ?_
    obtain ⟨b', done', same⟩ := octet?_of_group (group_of_octet? done)
    obtain rfl : b = b' := Option.some.inj (done.symm.trans done')
    exact same
  rw [Mac.text, shown, Text.map_intercalate]
  rfl

theorem sixGroups_twoDigits_iff : SixGroups TwoDigits text ↔ SixGroups Group text ∧ '+' ∉ text := by
  constructor
  · rintro ⟨groups, count, two, rfl⟩
    refine ⟨⟨groups, count, fun group there => .digits (two group there), rfl⟩, ?_⟩
    rw [Text.mem_intercalate_iff (by decide)]
    rintro ⟨group, there, plus⟩
    obtain ⟨h, l⟩ := two group there
    simp [h.ne_plus.symm, l.ne_plus.symm] at plus
  · rintro ⟨⟨groups, count, taken, rfl⟩, unsigned⟩
    rw [Text.mem_intercalate_iff (by decide)] at unsigned
    refine ⟨groups, count, fun group there => ?_, rfl⟩
    cases taken group there with
    | digits two => exact two
    | signed l => exact absurd ⟨_, there, List.mem_cons_self⟩ unsigned

/-- So many octets, one after another, each from the next group. There must be a group for each of them, and none
left in the end. -/
def octetsInSteps : Nat → List (List Char) → Option Bytes
  | 0, [] => some []
  | 0, _ :: _ => none
  | _ + 1, [] => none
  | n + 1, group :: groups => do
    let b ← twoOctets? group
    let rest ← octetsInSteps n groups
    return b :: rest

theorem octetsInSteps_eq (n : Nat) (groups : List (List Char)) :
    octetsInSteps n groups = (groups.mapM octet?).filter (·.length = n) := by
  induction groups generalizing n with
  | nil => cases n <;> rfl
  | cons group groups ih =>
    rw [List.mapM_cons]
    cases n with
    | zero =>
      rw [octetsInSteps]
      cases octet? group with
      | none => rfl
      | some b => cases groups.mapM octet? <;> rfl
    | succ n =>
      rw [octetsInSteps, twoOctets?_eq, ih]
      cases octet? group with
      | none => rfl
      | some b =>
        cases groups.mapM octet? with
        | none => rfl
        | some rest => by_cases count : rest.length = n <;> simp [Option.filter, count]

theorem parseChars?_eq_steps (text : List Char) :
    (parseChars? text).map (·.octets.val) = octetsInSteps 6 (Text.pieces ':' text) := by
  rw [octetsInSteps_eq, parseChars?]
  cases (Text.pieces ':' text).mapM octet? with
  | none => rfl
  | some octets => by_cases count : octets.length = 6 <;> simp [Option.filter, count]

theorem parse_eq_ok_iff {text : String} : parse text = .ok mac ↔ parseChars? text.toList = some mac := by
  rw [parse]
  cases parseChars? text.toList <;> simp

theorem parse_eq_error_iff {text : String} : parse text = .error .malformed ↔ parseChars? text.toList = none := by
  rw [parse]
  cases parseChars? text.toList <;> simp

theorem sixGroups_render (mac : Mac) : SixGroups TwoDigits mac.render.toList := by
  refine ⟨mac.octets.val.map octet, ?_, ?_, String.toList_ofList.symm⟩
  · rw [List.length_map, mac.octets.property]
  · rw [List.forall_mem_map]
    exact fun b _ => twoDigits_octet b

/-- What is written is read again. -/
theorem parse_render (mac : Mac) : parse mac.render = .ok mac := by
  have read : List.Forall₂ (fun group b => octet? group = some b) (mac.octets.val.map octet) mac.octets.val :=
    List.forall₂_map_left_iff.2 (List.forall₂_same.2 fun b _ => octet?_octet b)
  rw [parse_eq_ok_iff, render, String.toList_ofList]
  exact parseChars?_eq_some_iff.2 ⟨_, read, rfl⟩

theorem render_injective : Function.Injective render := by
  intro mac other same
  have read := parse_render mac
  rw [same, parse_render other] at read
  exact (Except.ok.inj read).symm

/-- The texts that are read are those with six groups, and what is read is written as it stood but in lower case.
They are six groups of two digits, unless a plus sign stands in them. -/
theorem parse_iff_six_groups (text : String) :
    ((∃ mac, parse text = .ok mac) ↔ SixGroups Group text.toList) ∧
      (parse text = .error .malformed ↔ ¬SixGroups Group text.toList) ∧
      (SixGroups TwoDigits text.toList ↔ SixGroups Group text.toList ∧ '+' ∉ text.toList) ∧
      (∀ mac, parse text = .ok mac → mac.text = text.toList.map lowered) ∧
      (∀ mac, parse text = .ok mac → '+' ∉ text.toList → mac.render = text.toLower) ∧
      (parseChars? text.toList).map (·.octets.val) = octetsInSteps 6 (Text.pieces ':' text.toList) := by
  have reads : (∃ mac, parse text = .ok mac) ↔ SixGroups Group text.toList := by
    constructor
    · rintro ⟨mac, done⟩
      exact sixGroups_of_parseChars? (parse_eq_ok_iff.1 done)
    · intro six
      obtain ⟨mac, done⟩ := exists_parseChars? six
      exact ⟨mac, parse_eq_ok_iff.2 done⟩
  refine ⟨reads, ?_, sixGroups_twoDigits_iff, ?_, ?_, parseChars?_eq_steps _⟩
  · rw [← reads, parse_eq_error_iff, Option.eq_none_iff_forall_ne_some]
    simp only [parse_eq_ok_iff, not_exists, ne_eq]
  · intro mac done
    exact text_of_parseChars? (parse_eq_ok_iff.1 done)
  · intro mac done unsigned
    have plain : text.toList.map lowered = text.toList.map Char.toLower :=
      List.map_congr_left fun c there => if_neg (ne_of_mem_of_not_mem there unsigned)
    have lower : text.toLower.toList = text.toList.map Char.toLower := String.toList_map
    rw [← String.toList_inj, render, String.toList_ofList, text_of_parseChars? (parse_eq_ok_iff.1 done), plain, lower]

def sampleMac : Mac := ⟨[0xaa, 0xbb, 0x0c, 0x00, 0x01, 0xff], rfl⟩

theorem parse_six_groups_sample : SixGroups TwoDigits "aa:BB:0c:00:01:fF".toList ∧
    sampleMac.render = "aa:BB:0c:00:01:fF".toLower := by
  have done : parse "aa:BB:0c:00:01:fF" = .ok sampleMac := by decide
  obtain ⟨reads, _, digits, _, lower, _⟩ := parse_iff_six_groups "aa:BB:0c:00:01:fF"
  exact ⟨digits.2 ⟨reads.1 ⟨_, done⟩, by decide⟩, lower _ done (by decide)⟩

/-- A plus sign in the place of a digit is taken, and read as a zero. -/
theorem plus_sign_taken : parse "+a:bb:cc:dd:ee:ff" = .ok ⟨[0x0a, 0xbb, 0xcc, 0xdd, 0xee, 0xff], rfl⟩ ∧
    ¬SixGroups TwoDigits "+a:bb:cc:dd:ee:ff".toList := by
  constructor
  · decide
  · intro two
    have unsigned := (sixGroups_twoDigits_iff.1 two).2
    revert unsigned
    decide

end Mac
end Srv6Traffic
