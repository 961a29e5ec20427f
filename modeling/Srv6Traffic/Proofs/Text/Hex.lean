import Mathlib.Tactic.IntervalCases
import Srv6Traffic.Text.Hex

/-! The texts of an octet. Two hexadecimal digits are meant, of either case. What is checked is that a text has two
octets in UTF-8 and reads as a number to the base 16. Such a number may start with a plus sign, so a plus sign and
one digit are taken too, and nothing else is. -/
namespace Srv6Traffic.Hex
variable {c : Char}

/-- The hexadecimal digits of ASCII, in either case. -/
def IsDigit (c : Char) : Prop := ('0' ≤ c ∧ c ≤ '9') ∨ ('a' ≤ c ∧ c ≤ 'f') ∨ ('A' ≤ c ∧ c ≤ 'F')

instance : DecidablePred IsDigit := fun c =>
  inferInstanceAs (Decidable (('0' ≤ c ∧ c ≤ '9') ∨ ('a' ≤ c ∧ c ≤ 'f') ∨ ('A' ≤ c ∧ c ≤ 'F')))

def digits : List Char := "0123456789abcdefABCDEF".toList

theorem mem_digits (h : IsDigit c) : c ∈ digits := by
  have bounds : (48 ≤ c.toNat ∧ c.toNat ≤ 57) ∨ (97 ≤ c.toNat ∧ c.toNat ≤ 102) ∨
      (65 ≤ c.toNat ∧ c.toNat ≤ 70) := h
  rw [← Char.ofNat_toNat c]
  obtain ⟨low, high⟩ | ⟨low, high⟩ | ⟨low, high⟩ := bounds
  all_goals
    interval_cases c.toNat <;> decide

theorem exists_digit (h : IsDigit c) : ∃ n, n < 16 ∧ digit? c = some n ∧ digit n = c.toLower := by
  have all : (digits.all fun c => (digit? c).any fun n => n < 16 ∧ digit n = c.toLower) = true := by decide
  obtain ⟨n, read, good⟩ := (Option.any_eq_true _ _).1 (List.all_eq_true.1 all c (mem_digits h))
  obtain ⟨small, shown⟩ := of_decide_eq_true good
  exact ⟨n, small, read, shown⟩

theorem digit?_of_not (h : ¬IsDigit c) : digit? c = none := by
  obtain ⟨number, lower, upper⟩ := by simpa only [IsDigit, not_or] using h
  rw [digit?, if_neg number, if_neg lower, if_neg upper]

theorem isDigit_of_digit? {n : Nat} (read : digit? c = some n) : IsDigit c := by
  refine Decidable.of_not_not fun other => ?_
  rw [digit?_of_not other] at read
  contradiction

theorem isDigit_digit {n : Nat} (small : n < 16) : IsDigit (digit n) := isDigit_of_digit? (digit?_digit small)

theorem digit?_lt {n : Nat} (read : digit? c = some n) : n < 16 := by
  obtain ⟨m, small, same, _⟩ := exists_digit (isDigit_of_digit? read)
  rw [read] at same
  rw [Option.some.inj same]
  exact small

theorem IsDigit.utf8Size (h : IsDigit c) : c.utf8Size = 1 := by
  have all : (digits.all fun c => c.utf8Size = 1) = true := by decide
  exact of_decide_eq_true (List.all_eq_true.1 all c (mem_digits h))

theorem IsDigit.ne_plus (h : IsDigit c) : c ≠ '+' := by
  rintro rfl
  revert h
  decide

variable {group : List Char} {b : UInt8}

/-- Two digits. -/
inductive TwoDigits : List Char → Prop
  | intro {high low : Char} (h : IsDigit high) (l : IsDigit low) : TwoDigits [high, low]

theorem twoDigits_octet (b : UInt8) : TwoDigits (octet b) := by
  have := b.toNat_lt
  exact .intro (isDigit_digit (by omega)) (isDigit_digit (by omega))

/-- Two digits, or a plus sign and one digit. -/
inductive Group : List Char → Prop
  | digits {group : List Char} (two : TwoDigits group) : Group group
  | signed {low : Char} (l : IsDigit low) : Group ['+', low]

/-- A character of a group as the octet is written: in lower case, with a zero in place of the sign. -/
def lowered (c : Char) : Char := if c = '+' then '0' else c.toLower

theorem IsDigit.lowered (h : IsDigit c) : Hex.lowered c = c.toLower := if_neg h.ne_plus

theorem octet_ofNat {h l : Nat} (high : h < 16) (low : l < 16) :
    octet (.ofNat (16 * h + l)) = [digit h, digit l] := by
  have value : (UInt8.ofNat (16 * h + l)).toNat = 16 * h + l := UInt8.toNat_ofNat_of_lt' (by
    change 16 * h + l < 256
    omega)
  have top : (16 * h + l) / 16 = h := by omega
  have bottom : (16 * h + l) % 16 = l := by omega
  rw [octet, value, top, bottom]

theorem octet?_of_group (taken : Group group) : ∃ b, octet? group = some b ∧ octet b = group.map lowered := by
  cases taken with
  | digits two =>
    obtain ⟨h, l⟩ := two
    obtain ⟨n, high, readHigh, shownHigh⟩ := exists_digit h
    obtain ⟨m, low, readLow, shownLow⟩ := exists_digit l
    refine ⟨.ofNat (16 * n + m), ?_, ?_⟩
    · simp only [octet?, if_neg h.ne_plus, readHigh, readLow]
      rfl
    · rw [octet_ofNat high low, shownHigh, shownLow, ← h.lowered, ← l.lowered]
      rfl
  | @signed last l =>
    obtain ⟨m, low, readLow, shownLow⟩ := exists_digit l
    refine ⟨.ofNat (16 * 0 + m), ?_, ?_⟩
    · simp only [octet?, if_pos, readLow, Option.map_some, Nat.mul_zero, Nat.zero_add]
    · rw [octet_ofNat (by decide) low, shownLow, ← l.lowered]
      rfl

theorem group_of_octet? (read : octet? group = some b) : Group group := by
  unfold octet? at read
  split at read
  next high low =>
    split at read
    next plus =>
      obtain ⟨n, readLow, _⟩ := Option.map_eq_some_iff.1 read
      rw [plus]
      exact .signed (isDigit_of_digit? readLow)
    next =>
      obtain ⟨n, readHigh, rest⟩ := Option.bind_eq_some_iff.1 read
      obtain ⟨m, readLow, _⟩ := Option.bind_eq_some_iff.1 rest
      exact .digits ⟨isDigit_of_digit? readHigh, isDigit_of_digit? readLow⟩
  next => contradiction

/-- The digits of a number to the base 16, as long as it fits an octet. -/
def accumulate (n : Nat) : List Char → Option Nat
  | [] => some n
  | c :: rest => do
    let d ← digit? c
    if 16 * n + d < 256 then accumulate (16 * n + d) rest else none

/-- A number to the base 16 that fits an octet. A plus sign may stand before it, but no sign stands alone. -/
def number? : List Char → Option UInt8
  | [] | ['+'] | ['-'] => none
  | '+' :: digits => (accumulate 0 digits).map .ofNat
  | digits => (accumulate 0 digits).map .ofNat

/-- How many octets a text has in UTF-8. -/
def size (text : List Char) : Nat := (text.map Char.utf8Size).sum

/-- A number that is written with two octets. -/
def twoOctets? (text : List Char) : Option UInt8 := if size text ≠ 2 then none else number? text

theorem accumulate_cons {n : Nat} (small : n < 16) (c : Char) (rest : List Char) :
    accumulate n (c :: rest) = digit? c >>= fun d => accumulate (16 * n + d) rest := by
  rw [accumulate]
  cases read : digit? c with
  | none => rfl
  | some d =>
    have low := digit?_lt read
    exact if_pos (by omega)

theorem number?_pair (high low : Char) : number? [high, low] = octet? [high, low] := by
  by_cases plus : high = '+'
  · subst plus
    rw [number?, accumulate_cons (by decide), octet?, if_pos rfl]
    · cases digit? low with
      | none => rfl
      | some l => simp [accumulate]
    · simp
  · rw [number?, accumulate_cons (by decide), octet?, if_neg plus]
    · cases read : digit? high with
      | none => rfl
      | some h =>
        have small := digit?_lt read
        simp only [Option.bind_eq_bind, Option.bind_some, Nat.mul_zero, Nat.zero_add, accumulate_cons small]
        cases digit? low <;> rfl
    all_goals simp [plus]

theorem size_of_group (taken : Group group) : size group = 2 := by
  cases taken with
  | digits two =>
    obtain ⟨h, l⟩ := two
    simp [size, h.utf8Size, l.utf8Size]
  | signed l =>
    have plus : '+'.utf8Size = 1 := by decide
    simp [size, plus, l.utf8Size]

theorem number?_single (notDigit : ¬IsDigit c) : number? [c] = none := by
  unfold number?
  split
  next => rfl
  next => rfl
  next => rfl
  next same =>
    obtain ⟨_, rfl⟩ := List.cons.inj same
    contradiction
  next => rw [accumulate, digit?_of_not notDigit]; rfl

/-- Groups are what is taken of the texts with two octets. One character that has both of them is no digit. -/
theorem twoOctets?_eq (text : List Char) : twoOctets? text = octet? text := by
  unfold twoOctets?
  match text with
  | [] => rfl
  | [c] =>
    by_cases h : IsDigit c
    · have one : size [c] ≠ 2 := by simp [size, h.utf8Size]
      rw [if_pos one]
      rfl
    · rw [number?_single h]
      exact ite_self none
  | [high, low] =>
    by_cases taken : size [high, low] = 2
    · rw [if_neg (not_not_intro taken), number?_pair]
    · rw [if_pos taken]
      refine (Option.eq_none_iff_forall_ne_some.2 fun b read => taken ?_).symm
      exact size_of_group (group_of_octet? read)
  | first :: second :: third :: rest =>
    have one := first.utf8Size_pos
    have two := second.utf8Size_pos
    have three := third.utf8Size_pos
    have long : size (first :: second :: third :: rest) ≠ 2 := by
      simp only [size, List.map_cons, List.sum_cons]
      omega
    rw [if_pos long]
    rfl

example : twoOctets? ['é'] = none ∧ twoOctets? ['+', '+'] = none ∧ twoOctets? ['+', 'F'] = some 0x0f := by decide

end Srv6Traffic.Hex
