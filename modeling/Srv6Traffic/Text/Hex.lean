import Srv6Traffic.Wire.Word

/-! Hexadecimal text, written in lower case and read in either case. -/
namespace Srv6Traffic.Hex

def digit (n : Nat) : Char := .ofNat (if n < 10 then 48 + n else 87 + n)

def digit? (c : Char) : Option Nat :=
  if '0' ≤ c ∧ c ≤ '9' then some (c.toNat - 48)
  else if 'a' ≤ c ∧ c ≤ 'f' then some (c.toNat - 87)
  else if 'A' ≤ c ∧ c ≤ 'F' then some (c.toNat - 55)
  else none

def octet (b : UInt8) : List Char := [digit (b.toNat / 16), digit (b.toNat % 16)]

/-- An octet in two characters: two digits, or a plus sign and one digit. -/
def octet? : List Char → Option UInt8
  | [high, low] =>
    if high = '+' then (digit? low).map UInt8.ofNat
    else do
      let h ← digit? high
      let l ← digit? low
      return .ofNat (16 * h + l)
  | _ => none

/-- The digits of a number, without leading zeros. -/
def number (n : Nat) : List Char :=
  if n < 16 then [digit n] else number (n / 16) ++ [digit (n % 16)]

/-- A number filled up with zeros to a least number of digits. -/
def padded (width n : Nat) : List Char := (number n).leftpad width '0'

theorem digit?_digit {n : Nat} (h : n < 16) : digit? (digit n) = some n := by
  match n, h with
  | 0, _ | 1, _ | 2, _ | 3, _ | 4, _ | 5, _ | 6, _ | 7, _ | 8, _ | 9, _ | 10, _ | 11, _ | 12, _
  | 13, _ | 14, _ | 15, _ => decide
  | n + 16, h => omega

theorem digit_ne_plus {n : Nat} (h : n < 16) : digit n ≠ '+' := by
  intro e
  have := digit?_digit h
  simp [e, digit?] at this

theorem octet?_octet (b : UInt8) : octet? (octet b) = some b := by
  have := b.toNat_lt
  have high : b.toNat / 16 < 16 := by omega
  have low : b.toNat % 16 < 16 := by omega
  simp only [octet, octet?, if_neg (digit_ne_plus high), digit?_digit high, digit?_digit low]
  change some (UInt8.ofNat (16 * (b.toNat / 16) + b.toNat % 16)) = some b
  rw [Nat.div_add_mod, UInt8.ofNat_toNat]

end Srv6Traffic.Hex
