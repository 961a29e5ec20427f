import Mathlib.Data.List.Forall2
import Mathlib.Data.String.Basic
import Srv6Traffic.Address.Ip
import Srv6Traffic.Proofs.Text.Numeral

/-! The texts of network addresses, told by the octets that they stand for. An IPv4 address has a decimal number for
each octet. An IPv6 address has a number without leading zeros for each group, but the first longest row of zero
groups is left out if it has more than one of them; where an IPv4 address is mapped, the end is the text of that. Each
address has one text. -/
namespace Srv6Traffic

namespace Word

theorem flatMap_decodeAll {bytes : Bytes} (even : bytes.length % 2 = 0) :
    (decodeAll bytes).flatMap encode = bytes := by
  fun_induction decodeAll bytes with
  | case1 high low rest ih =>
    have shorter : rest.length % 2 = 0 := by
      simp only [List.length_cons] at even
      omega
    rw [List.flatMap_cons, ih shorter, encode, high_ofOctets, low_ofOctets]
    rfl
  | case2 bytes other =>
    match bytes, other with
    | [], _ => rfl
    | [_], _ => contradiction
    | high :: low :: rest, other => exact absurd rfl (other high low rest)

theorem decodeAll_flatMap (words : List UInt16) : decodeAll (words.flatMap encode) = words := by
  induction words with
  | nil => rfl
  | cons w words ih =>
    rw [List.flatMap_cons, encode, List.cons_append, List.cons_append, List.nil_append, decodeAll,
      ofOctets_high_low, ih]

end Word

/-- Texts that are told by one value each are the values mapped to their texts. -/
theorem forall₂_iff_map_eq {α β : Type} {Text : β → α → Prop} {text : α → β}
    (each : ∀ value own, Text own value ↔ text value = own) {values : List α} {texts : List β} :
    List.Forall₂ Text texts values ↔ values.map text = texts := by
  rw [← List.forall₂_eq_eq_eq, List.forall₂_map_left_iff]
  exact ⟨fun told => told.flip.imp fun value own => (each value own).1,
    fun same => same.flip.imp fun own value => (each value own).2⟩

/-- Four octets as decimal numbers with points between them. -/
inductive Dotted : Bytes → String → Prop
  | intro (a b c d : UInt8) : Dotted [a, b, c, d] s!"{a.toNat}.{b.toNat}.{c.toNat}.{d.toNat}"

theorem dotted_of_four (octets : Octets 4) : Dotted octets.val (dotted octets.val) := by
  obtain ⟨octets, four⟩ := octets
  match octets, four with
  | [a, b, c, d], _ => exact .intro a b c d

theorem Dotted.eq {octets : Bytes} {text : String} (dots : Dotted octets text) : dotted octets = text := by
  cases dots
  rfl

namespace Ipv6Address
variable {a : Ipv6Address} {groups before after : List UInt16} {zeros : Nat} {text : String}

/-- Numbers without leading zeros, with colons between them. -/
inductive Joins : List UInt16 → String → Prop
  | intro {groups : List UInt16} {parts : List String}
    (spelled : List.Forall₂ (fun part (group : UInt16) => Hex.Padded 1 part.toList group.toNat) parts groups) :
    Joins groups (":".intercalate parts)

/-- The longest row of zeros among the groups, and the first one of that length. -/
structure Longest (groups before : List UInt16) (zeros : Nat) (after : List UInt16) : Prop where
  parted : groups = before ++ (List.replicate zeros 0 ++ after)
  longest : ∀ front more back, groups = front ++ (List.replicate more 0 ++ back) → more ≤ zeros
  first : ∀ front back, groups = front ++ (List.replicate zeros 0 ++ back) → before.length ≤ front.length

/-- An address that maps an IPv4 one, whose octets stand last. -/
def Maps (a : Ipv6Address) (tail : Bytes) : Prop := a.octets.val = List.replicate 10 0 ++ 0xff :: 0xff :: tail

/-- The texts of an address. -/
inductive Written (a : Ipv6Address) : String → Prop
  | mapped {tail : Bytes} {text : String} (maps : a.Maps tail) (dots : Dotted tail text) :
    Written a ("::ffff:" ++ text)
  | plain {groups : List UInt16} {text : String} (native : ∀ tail, ¬a.Maps tail)
    (octets : groups.flatMap Word.encode = a.octets.val)
    (apart : ∀ before after, groups ≠ before ++ (List.replicate 2 0 ++ after)) (joins : Joins groups text) :
    Written a text
  | shortened {groups before after : List UInt16} {zeros : Nat} {front back : String}
    (native : ∀ tail, ¬a.Maps tail) (octets : groups.flatMap Word.encode = a.octets.val)
    (longest : Longest groups before zeros after) (several : 2 ≤ zeros) (joins : Joins before front)
    (joins' : Joins after back) : Written a (front ++ "::" ++ back)

theorem joins_iff : Joins groups text ↔ joined groups = text := by
  have alone : ∀ n, Hex.padded 1 n = Hex.number n := fun n => by
    have some : 1 ≤ (Hex.number n).length := by
      rw [Hex.number_eq_toDigits]
      exact Nat.length_toDigits_pos
    rw [Hex.padded, List.leftpad, Nat.sub_eq_zero_of_le some]
    rfl
  have spelled_iff (group : UInt16) (part : String) :
      Hex.Padded 1 part.toList group.toNat ↔ String.ofList (Hex.number group.toNat) = part := by
    rw [Hex.padded_iff Nat.one_pos, alone, String.ofList_eq, eq_comm]
  constructor
  · rintro ⟨spelled⟩
    rw [joined, (forall₂_iff_map_eq spelled_iff).1 spelled]
  · rintro rfl
    exact .intro ((forall₂_iff_map_eq spelled_iff).2 rfl)

/-- The first place where a function is greatest, and how great it is there. -/
theorem greatest_foldl {f : Nat → Nat} {n : Nat} {best : Nat × Nat}
    (found : (List.range n).foldl (fun best i => if best.2 < f i then (i, f i) else best) (0, 0) = best) :
    (∀ i < n, f i ≤ best.2) ∧ (0 < best.2 → f best.1 = best.2 ∧ ∀ i < best.1, f i < best.2) := by
  induction n generalizing best with
  | zero =>
    subst found
    exact ⟨nofun, nofun⟩
  | succ n ih =>
    obtain ⟨most, there⟩ := ih rfl
    rw [List.range_succ, List.foldl_append, List.foldl_cons, List.foldl_nil] at found
    split at found
    next more =>
      subst found
      refine ⟨fun i inside => ?_, fun _ => ⟨rfl, fun i inside => Nat.lt_of_le_of_lt (most i inside) more⟩⟩
      rcases Nat.lt_succ_iff_lt_or_eq.1 inside with earlier | rfl
      · exact (most i earlier).trans (Nat.le_of_lt more)
      · exact Nat.le_refl _
    next less =>
      subst found
      refine ⟨fun i inside => ?_, there⟩
      rcases Nat.lt_succ_iff_lt_or_eq.1 inside with earlier | rfl
      · exact most i earlier
      · exact Nat.le_of_not_lt less

theorem longestZeros_most (groups : List UInt16) :
    (∀ i < groups.length, zerosFrom groups i ≤ (longestZeros groups).2) ∧
      (0 < (longestZeros groups).2 → zerosFrom groups (longestZeros groups).1 = (longestZeros groups).2 ∧
        ∀ i < (longestZeros groups).1, zerosFrom groups i < (longestZeros groups).2) :=
  greatest_foldl rfl

/-- From each place on there is a row of zeros, which may be empty. -/
theorem parted_zerosFrom (groups : List UInt16) (start : Nat) :
    groups = groups.take start ++
      (List.replicate (zerosFrom groups start) 0 ++ groups.drop (start + zerosFrom groups start)) := by
  have row : (groups.drop start).takeWhile (· = 0) = List.replicate (zerosFrom groups start) 0 :=
    List.eq_replicate_of_mem fun g there => of_decide_eq_true (List.all_eq_true.1 List.all_takeWhile g there)
  have whole : (groups.drop start).takeWhile (· = 0) ++ (groups.drop start).dropWhile (· = 0) = groups.drop start :=
    List.takeWhile_append_dropWhile
  rw [row] at whole
  have behind : groups.drop (start + zerosFrom groups start) = (groups.drop start).dropWhile (· = 0) := by
    rw [← List.drop_drop]
    exact (congrArg _ whole.symm).trans (List.drop_left' List.length_replicate)
  rw [behind, whole, List.take_append_drop]

theorem le_zerosFrom {front back : List UInt16} {more : Nat}
    (parted : groups = front ++ (List.replicate more 0 ++ back)) : more ≤ zerosFrom groups front.length := by
  rw [zerosFrom, parted, List.drop_left, List.takeWhile_append_of_pos, List.length_append, List.length_replicate]
  · exact Nat.le_add_right ..
  · intro g there
    exact decide_eq_true (List.eq_of_mem_replicate there)

theorem length_lt_of_parted {front back : List UInt16} {more : Nat} (some : 0 < more)
    (parted : groups = front ++ (List.replicate more 0 ++ back)) : front.length < groups.length := by
  have length := congrArg List.length parted
  rw [List.length_append, List.length_append, List.length_replicate] at length
  omega

/-- No row of zeros is longer than the one that was found. -/
theorem le_longestZeros {front back : List UInt16} {more : Nat}
    (parted : groups = front ++ (List.replicate more 0 ++ back)) : more ≤ (longestZeros groups).2 := by
  rcases Nat.eq_zero_or_pos more with none | some
  · rw [none]
    exact Nat.zero_le _
  · exact (le_zerosFrom parted).trans ((longestZeros_most groups).1 _ (length_lt_of_parted some parted))

theorem longest_longestZeros (some : 0 < (longestZeros groups).2) :
    Longest groups (groups.take (longestZeros groups).1) (longestZeros groups).2
      (groups.drop ((longestZeros groups).1 + (longestZeros groups).2)) where
  parted := by
    have row := parted_zerosFrom groups (longestZeros groups).1
    rwa [((longestZeros_most groups).2 some).1] at row
  longest _ _ _ := le_longestZeros
  first front back parted := by
    have earlier := ((longestZeros_most groups).2 some).2 front.length
    have long := le_zerosFrom parted
    have short := List.length_take_le (longestZeros groups).1 groups
    exact short.trans (Nat.le_of_not_lt fun before => absurd long (Nat.not_le_of_lt (earlier before)))

theorem longestZeros_lt_two (apart : ∀ before after, groups ≠ before ++ (List.replicate 2 0 ++ after)) :
    (longestZeros groups).2 < 2 := by
  refine Nat.lt_of_not_le fun several => ?_
  have own : Longest groups _ _ _ := longest_longestZeros (by omega)
  have parted := own.parted
  rw [← Nat.add_sub_of_le several, List.replicate_add, List.append_assoc] at parted
  exact apart _ _ parted

namespace Longest
variable {before' after' : List UInt16} {zeros' : Nat}

/-- There is one such row, if there is any. -/
theorem unique (longest : Longest groups before zeros after) (longest' : Longest groups before' zeros' after') :
    before = before' ∧ zeros = zeros' ∧ after = after' := by
  have count : zeros = zeros' :=
    Nat.le_antisymm (longest'.longest _ _ _ longest.parted) (longest.longest _ _ _ longest'.parted)
  subst count
  have place : before.length = before'.length :=
    Nat.le_antisymm (longest.first _ _ longest'.parted) (longest'.first _ _ longest.parted)
  obtain ⟨front, rest⟩ := List.append_inj (longest.parted.symm.trans longest'.parted) place
  exact ⟨front, rfl, List.append_cancel_left rest⟩

end Longest

theorem maps_iff {tail : Bytes} : a.Maps tail ↔
    a.octets.val.take 12 = List.replicate 10 0 ++ [0xff, 0xff] ∧ a.octets.val.drop 12 = tail := by
  rw [Maps]
  constructor
  · intro maps
    rw [maps]
    exact ⟨rfl, rfl⟩
  · rintro ⟨front, rfl⟩
    nth_rewrite 1 [← List.take_append_drop 12 a.octets.val]
    rw [front]
    rfl

theorem Maps.length_tail {tail : Bytes} (maps : a.Maps tail) : tail.length = 4 := by
  have length := a.octets.property
  rw [maps, List.length_append, List.length_replicate, List.length_cons, List.length_cons] at length
  omega

theorem render_of_maps {tail : Bytes} (maps : a.Maps tail) : a.render = "::ffff:" ++ dotted tail := by
  obtain ⟨front, behind⟩ := maps_iff.1 maps
  rw [render, if_pos front, behind]

theorem render_of_native (native : ∀ tail, ¬a.Maps tail) : a.render =
    if (longestZeros a.groups).2 < 2 then joined a.groups
    else joined (a.groups.take (longestZeros a.groups).1) ++ "::" ++
      joined (a.groups.drop ((longestZeros a.groups).1 + (longestZeros a.groups).2)) :=
  if_neg fun front => native _ (maps_iff.2 ⟨front, rfl⟩)

theorem flatMap_groups (a : Ipv6Address) : a.groups.flatMap Word.encode = a.octets.val :=
  Word.flatMap_decodeAll (by rw [a.octets.property])

theorem groups_eq (octets : groups.flatMap Word.encode = a.octets.val) : a.groups = groups := by
  rw [Ipv6Address.groups, ← octets, Word.decodeAll_flatMap]

/-- The text that is printed is the one that an address has. -/
theorem written_iff : a.Written text ↔ a.render = text := by
  constructor
  · rintro (⟨maps, dots⟩ | ⟨native, octets, apart, joins⟩ | ⟨native, octets, longest, several, joins, joins'⟩)
    · rw [render_of_maps maps, dots.eq]
    · rw [render_of_native native, groups_eq octets, if_pos (longestZeros_lt_two apart), joins_iff.1 joins]
    · have many := several.trans (le_longestZeros longest.parted)
      obtain ⟨front, count, back⟩ := longest.unique (longest_longestZeros (by omega))
      rw [render_of_native native, groups_eq octets, if_neg (Nat.not_lt_of_le many), ← front, ← back,
        joins_iff.1 joins, joins_iff.1 joins']
  · rintro rfl
    by_cases mapped : ∃ tail, a.Maps tail
    · obtain ⟨tail, maps⟩ := mapped
      rw [render_of_maps maps]
      exact .mapped maps (dotted_of_four ⟨tail, maps.length_tail⟩)
    · have native := not_exists.1 mapped
      rw [render_of_native native]
      split
      next few =>
        exact .plain native a.flatMap_groups (fun before after parted =>
          absurd (le_longestZeros parted) (Nat.not_le_of_lt few)) (joins_iff.2 rfl)
      next many =>
        exact .shortened native a.flatMap_groups (longest_longestZeros (by omega)) (Nat.le_of_not_lt many)
          (joins_iff.2 rfl) (joins_iff.2 rfl)

example : (ofGroups 0xfc00 2 0 0 0x10 0 0 2).render = "fc00:2::10:0:0:2" ∧
    (ofGroups 0 0 0 0 0 0xffff 0x0a01 0x0001).render = "::ffff:10.1.0.1" := by decide +kernel

end Ipv6Address
end Srv6Traffic
