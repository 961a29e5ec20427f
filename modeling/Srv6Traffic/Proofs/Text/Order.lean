import Mathlib.Algebra.Group.Nat.Defs
import Srv6Traffic.Wire.Word

/-! The order of texts. It is told code point by code point, and octet by octet of their UTF-8 it is the same:
the first octet of a character grows with the number of octets that follow it, and those are its last digits
to the base 64. -/
namespace Srv6Traffic.Text

/-- The octets of a text in UTF-8. -/
def octets (text : String) : Bytes := text.toByteArray.data.toList

theorem octets_eq (text : String) : octets text = text.toList.flatMap String.utf8EncodeChar := by
  conv => lhs; rw [octets, ← String.ofList_toList (s := text)]
  exact List.toList_data_toByteArray

/-- One string comes before another, and this shows before either of them ends. -/
inductive Before : Bytes → Bytes → Prop
  | here {x y : UInt8} (rest rest' : Bytes) : x < y → Before (x :: rest) (y :: rest')
  | there {a b : Bytes} (x : UInt8) : Before a b → Before (x :: a) (x :: b)

theorem Before.append_lt {a b : Bytes} (before : Before a b) (rest rest' : Bytes) :
    a ++ rest < b ++ rest' := by
  induction before with
  | here front front' less => exact List.Lex.rel less
  | there x _ ih => exact List.Lex.cons ih

section
variable {v w : Nat}

/-- How many octets follow the first one of a character. -/
def following (v : Nat) : Nat :=
  if v ≤ 0x7f then 0 else if v ≤ 0x7ff then 1 else if v ≤ 0xffff then 2 else 3

/-- What marks the first octet when so many follow. -/
def mark : Nat → Nat
  | 0 => 0
  | 1 => 192
  | 2 => 224
  | _ => 240

/-- The first octet: what the octets after it do not tell, behind the mark of their number. -/
def first (v : Nat) : Nat := v / 64 ^ following v + mark (following v)

/-- The last `k` digits to the base 64, each in an octet. -/
def digits (v : Nat) : Nat → Bytes
  | 0 => []
  | k + 1 => .ofNat (v / 64 ^ k % 64 + 128) :: digits v k

theorem following_cases (v : Nat) : (following v = 0 ∧ v < 128) ∨ (following v = 1 ∧ 128 ≤ v ∧ v < 2048) ∨
    (following v = 2 ∧ 2048 ≤ v ∧ v < 65536) ∨ (following v = 3 ∧ 65536 ≤ v) := by
  unfold following
  split
  · omega
  · split
    · omega
    · split <;> omega

theorem first_lt (small : v < 1114112) : first v < 256 := by
  rcases following_cases v with ⟨k, range⟩ | ⟨k, range⟩ | ⟨k, range⟩ | ⟨k, range⟩ <;>
    simp only [first, k, mark] <;> omega

/-- The first octet of the greater character is the greater one, unless both agree in all that it tells. -/
theorem first_lt_first (less : v < w) (small : w < 1114112) :
    first v < first w ∨
      following v = following w ∧ v / 64 ^ following v = w / 64 ^ following v ∧ first v = first w := by
  rcases following_cases v with ⟨k, range⟩ | ⟨k, range⟩ | ⟨k, range⟩ | ⟨k, range⟩ <;>
    rcases following_cases w with ⟨l, range'⟩ | ⟨l, range'⟩ | ⟨l, range'⟩ | ⟨l, range'⟩ <;>
      simp only [first, k, l, mark, true_and] <;> omega

theorem ofNat_lt_ofNat (less : v < w) (fits : w < 256) : UInt8.ofNat v < UInt8.ofNat w := by
  rw [UInt8.lt_iff_toNat_lt, UInt8.toNat_ofNat', UInt8.toNat_ofNat']
  omega

theorem digits_before (less : v < w) (k : Nat) (same : v / 64 ^ k = w / 64 ^ k) :
    Before (digits v k) (digits w k) := by
  induction k with
  | zero =>
    simp at same
    omega
  | succ k ih =>
    rw [Nat.pow_succ, ← Nat.div_div_eq_div_mul, ← Nat.div_div_eq_div_mul] at same
    have le : v / 64 ^ k ≤ w / 64 ^ k := Nat.div_le_div_right (Nat.le_of_lt less)
    rcases Nat.lt_or_eq_of_le le with apart | equal
    · exact .here _ _ (ofNat_lt_ofNat (by omega) (by omega))
    · rw [digits, digits, equal]
      exact .there _ (ih equal)

end

theorem toNat_lt (c : Char) : c.toNat < 1114112 := by
  rcases c.valid with below | above
  · exact Nat.lt_trans below (by decide)
  · exact above.2

theorem utf8EncodeChar_eq (c : Char) :
    String.utf8EncodeChar c = .ofNat (first c.toNat) :: digits c.toNat (following c.toNat) := by
  have small := toNat_lt c
  unfold String.utf8EncodeChar first following
  by_cases one : c.toNat ≤ 0x7f
  · simp [mark, digits, one]
  by_cases two : c.toNat ≤ 0x7ff
  · have top : c.toNat / 64 % 32 = c.toNat / 64 := by omega
    simp [mark, digits, one, two, top]
  by_cases three : c.toNat ≤ 0xffff
  · have top : c.toNat / 4096 % 16 = c.toNat / 4096 := by omega
    simp [mark, digits, one, two, three, top]
  · have top : c.toNat / 262144 % 8 = c.toNat / 262144 := by omega
    simp [mark, digits, one, two, three, top]

theorem utf8EncodeChar_before {c d : Char} (less : c < d) :
    Before (String.utf8EncodeChar c) (String.utf8EncodeChar d) := by
  have small := toNat_lt d
  rw [utf8EncodeChar_eq, utf8EncodeChar_eq]
  rcases first_lt_first (show c.toNat < d.toNat from less) small with apart | ⟨count, top, same⟩
  · exact .here _ _ (ofNat_lt_ofNat apart (first_lt small))
  · rw [same, ← count]
    exact .there _ (digits_before less _ top)

theorem flatMap_lt {these those : List Char} (less : these < those) :
    these.flatMap String.utf8EncodeChar < those.flatMap String.utf8EncodeChar := by
  induction less with
  | @nil c rest =>
    rw [List.flatMap_nil, List.flatMap_cons, utf8EncodeChar_eq]
    exact List.Lex.nil
  | rel less => exact (utf8EncodeChar_before less).append_lt _ _
  | cons _ ih => exact List.append_left_lt ih

/-- The order of the code points is the order of the octets. -/
theorem octets_lt_iff {a b : String} : octets a < octets b ↔ a < b := by
  rw [octets_eq, octets_eq]
  constructor
  · intro less
    refine Decidable.byContradiction fun notLess => ?_
    by_cases greater : b < a
    · exact List.lt_asymm less (flatMap_lt greater)
    · have same : a = b := String.le_antisymm (String.not_lt.1 greater) (String.not_lt.1 notLess)
      rw [same] at less
      exact List.lt_irrefl _ less
  · exact flatMap_lt

end Srv6Traffic.Text
