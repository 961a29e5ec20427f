/-! Integer literals: an optional sign and at least one ASCII digit, within the range of the
type. -/
namespace Srv6Traffic.Text

def natural? (text : List Char) : Option Nat :=
  if text ≠ [] ∧ text.all Char.isDigit then
    some (text.foldl (fun n c => 10 * n + (c.toNat - 48)) 0)
  else none

def integer? : List Char → Option Int
  | '-' :: digits => (natural? digits).map fun n => -(n : Int)
  | '+' :: digits => (natural? digits).map fun n => (n : Int)
  | digits => (natural? digits).map fun n => (n : Int)

def int64? (text : List Char) : Option Int64 :=
  (integer? text).bind fun n =>
    if Int64.minValue.toInt ≤ n ∧ n ≤ Int64.maxValue.toInt then some (.ofInt n) else none

/-- A count of 64 bits, which may have a plus sign but no minus sign. -/
def count? (text : List Char) : Option Nat :=
  (natural? (match text with | '+' :: digits => digits | digits => digits)).filter (· < UInt64.size)

end Srv6Traffic.Text
