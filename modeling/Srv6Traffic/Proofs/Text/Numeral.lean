import Mathlib.Data.Nat.Digits.Lemmas
import Srv6Traffic.Text.Hex

/-! Numbers in lower-case digits to the base 16. Zeros stand before a number to fill it up to a width, and only
then, so that a number has one text for each width. -/
namespace Srv6Traffic.Hex
variable {text text' : List Char} {n d width : Nat}

/-- The digits as they are written, each in the place of its value. -/
def lowerDigits : List Char := "0123456789abcdef".toList

/-- The values of digits, the least place first. -/
def places (text : List Char) : List Nat := text.reverse.map fun c => lowerDigits.idxOf c

/-- Lower-case digits that stand for a number. -/
structure Spells (text : List Char) (n : Nat) : Prop where
  lower : ∀ c ∈ text, c ∈ lowerDigits
  value : Nat.ofDigits 16 (places text) = n

/-- A number with zeros before it up to a width. One that needs more digits has them all, and no zeros. -/
structure Padded (width : Nat) (text : List Char) (n : Nat) : Prop where
  spells : Spells text n
  filled : n < 16 ^ width → text.length = width
  longer : 16 ^ width ≤ n → width < text.length ∧ text.head? ≠ some '0'

theorem digit_lower : ∀ n < 16, digit n ∈ lowerDigits ∧ lowerDigits.idxOf (digit n) = n := by decide

theorem digit_eq_digitChar : ∀ n < 16, digit n = n.digitChar := by decide

theorem places_lt (lower : ∀ c ∈ text, c ∈ lowerDigits) : ∀ d ∈ places text, d < 16 := by
  intro d there
  obtain ⟨c, mem, rfl⟩ := List.mem_map.1 there
  exact List.idxOf_lt_length_of_mem (lower c (List.mem_reverse.1 mem))

theorem getElem?_places (lower : ∀ c ∈ text, c ∈ lowerDigits) :
    (places text).map (lowerDigits[·]?) = text.reverse.map some := by
  rw [places, List.map_map]
  exact List.map_congr_left fun c mem => List.getElem?_idxOf (lower c (List.mem_reverse.1 mem))

theorem eq_of_places (lower : ∀ c ∈ text, c ∈ lowerDigits) (lower' : ∀ c ∈ text', c ∈ lowerDigits)
    (same : places text = places text') : text = text' := by
  have digits : text.reverse.map some = text'.reverse.map some := by
    rw [← getElem?_places lower, ← getElem?_places lower', same]
  exact List.reverse_injective ((Option.some_injective Char).list_map digits)

namespace Spells

theorem eq_of_length (spells : Spells text n) (spells' : Spells text' n) (same : text.length = text'.length) :
    text = text' := by
  have length : (places text).length = (places text').length := by
    simpa only [places, List.length_map, List.length_reverse] using same
  exact eq_of_places spells.lower spells'.lower (Nat.ofDigits_inj_of_len_eq (by decide) length
    (places_lt spells.lower) (places_lt spells'.lower) (spells.value.trans spells'.value.symm))

/-- Without a zero before it a number has its own digits only. -/
theorem digits_eq (spells : Spells text n) (head : text.head? ≠ some '0') : Nat.digits 16 n = places text := by
  rw [← spells.value]
  refine Nat.digits_ofDigits 16 (by decide) _ (places_lt spells.lower) fun nonempty => ?_
  cases text with
  | nil => exact absurd rfl nonempty
  | cons c rest =>
    have there : c ∈ lowerDigits := spells.lower c List.mem_cons_self
    have zero : lowerDigits.idxOf '0' = 0 := by decide
    simp only [places, List.reverse_cons, List.map_append, List.map_cons, List.map_nil, List.getLast_append_singleton]
    rw [← zero, ne_eq, List.idxOf_inj there]
    rintro rfl
    exact head rfl

theorem eq_of_head (spells : Spells text n) (spells' : Spells text' n) (head : text.head? ≠ some '0')
    (head' : text'.head? ≠ some '0') : text = text' :=
  eq_of_places spells.lower spells'.lower ((spells.digits_eq head).symm.trans (spells'.digits_eq head'))

theorem digit (small : d < 16) : Spells [digit d] d where
  lower := List.forall_mem_singleton.2 (digit_lower d small).1
  value := Nat.ofDigits_singleton.trans (digit_lower d small).2

theorem concat (spells : Spells text n) (small : d < 16) : Spells (text ++ [Hex.digit d]) (16 * n + d) where
  lower := List.forall_mem_append.2 ⟨spells.lower, (Spells.digit small).lower⟩
  value := by
    have shown : places (text ++ [Hex.digit d]) = d :: places text := by
      rw [places, List.reverse_concat, List.map_cons, (digit_lower d small).2, places]
    rw [shown, Nat.ofDigits_cons, spells.value]
    exact Nat.add_comm _ _

theorem zeros (spells : Spells text n) (count : Nat) : Spells (List.replicate count '0' ++ text) n where
  lower := by
    refine List.forall_mem_append.2 ⟨fun c there => ?_, spells.lower⟩
    rw [List.eq_of_mem_replicate there]
    decide
  value := by
    have shown : places (List.replicate count '0' ++ text) = places text ++ List.replicate count 0 := by
      rw [places, List.reverse_append, List.map_append, List.reverse_replicate, List.map_replicate, places]
      rfl
    rw [shown, Nat.ofDigits_append_replicate_zero, spells.value]

end Spells

theorem spells_number (n : Nat) : Spells (number n) n := by
  fun_induction number n with
  | case1 n small => exact .digit small
  | case2 n large ih =>
    have last := ih.concat (Nat.mod_lt n (by decide : 16 > 0))
    rwa [Nat.div_add_mod] at last

theorem number_eq_toDigits (n : Nat) : number n = Nat.toDigits 16 n := by
  fun_induction number n with
  | case1 n small => rw [Nat.toDigits_of_lt_base small, digit_eq_digitChar n small]
  | case2 n large ih =>
    rw [Nat.toDigits_of_base_le (by decide) (Nat.le_of_not_lt large), ih,
      digit_eq_digitChar _ (Nat.mod_lt n (by decide))]

theorem length_number_le_iff (pos : 0 < width) : (number n).length ≤ width ↔ n < 16 ^ width := by
  rw [number_eq_toDigits]
  exact Nat.length_toDigits_le_iff (by decide) pos

theorem number_head (pos : 0 < n) : ∃ c rest, number n = c :: rest ∧ c ≠ '0' := by
  fun_induction number n with
  | case1 n small =>
    refine ⟨digit n, [], rfl, fun zero => ?_⟩
    have place := (digit_lower n small).2
    rw [zero] at place
    exact absurd place (Nat.ne_of_lt pos)
  | case2 n large ih =>
    obtain ⟨c, rest, shape, other⟩ := ih (by omega)
    exact ⟨c, rest ++ [digit (n % 16)], by rw [shape, List.cons_append], other⟩

theorem padded_padded (pos : 0 < width) (n : Nat) : Padded width (padded width n) n where
  spells := (spells_number n).zeros _
  filled := by
    intro fits
    rw [padded, List.length_leftpad, Nat.max_eq_left ((length_number_le_iff pos).2 fits)]
  longer := by
    intro large
    have long : width < (number n).length := Nat.lt_of_not_le fun short =>
      absurd ((length_number_le_iff pos).1 short) (Nat.not_lt_of_le large)
    have bare : padded width n = number n := by
      rw [padded, List.leftpad, Nat.sub_eq_zero_of_le (Nat.le_of_lt long)]
      rfl
    obtain ⟨c, rest, shape, other⟩ := number_head (Nat.lt_of_lt_of_le (Nat.pow_pos (by decide)) large)
    rw [bare]
    refine ⟨long, ?_⟩
    rw [shape]
    exact fun same => other (Option.some.inj same)

/-- A number has one text for each width. -/
theorem padded_iff (pos : 0 < width) : Padded width text n ↔ padded width n = text := by
  constructor
  · intro given
    have own := padded_padded pos n
    by_cases fits : n < 16 ^ width
    · exact own.spells.eq_of_length given.spells ((own.filled fits).trans (given.filled fits).symm)
    · have large := Nat.le_of_not_lt fits
      exact own.spells.eq_of_head given.spells (own.longer large).2 (given.longer large).2
  · rintro rfl
    exact padded_padded pos n

example : padded 4 0xfff0 = "fff0".toList ∧ padded 4 0x10030 = "10030".toList ∧ padded 4 0 = "0000".toList := by
  decide +kernel

/-- An octet is a number of two digits. -/
theorem octet_eq_padded (b : UInt8) : octet b = padded 2 b.toNat := by
  have small := b.toNat_lt
  refine ((padded_iff Nat.two_pos).1 ⟨?_, fun _ => rfl, fun large => ?_⟩).symm
  · have two := (Spells.digit (by omega : b.toNat / 16 < 16)).concat (by omega : b.toNat % 16 < 16)
    rwa [Nat.div_add_mod] at two
  · exact absurd large (Nat.not_le_of_lt small)

theorem padded_octet_iff {b : UInt8} : Padded 2 text b.toNat ↔ octet b = text := by
  rw [octet_eq_padded]
  exact padded_iff Nat.two_pos

theorem Padded.notMem {c : Char} (padded : Padded width text n) (other : c ∉ lowerDigits) : c ∉ text :=
  fun there => other (padded.spells.lower c there)

end Srv6Traffic.Hex
