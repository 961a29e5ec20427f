import Srv6Traffic.Wire.Word

/-! Readers take what they need off the front of an octet string and hand back the rest, or fail
when the string is too short. -/
namespace Srv6Traffic

abbrev Reader := StateT Bytes Option

namespace Reader

def octet : Reader UInt8 := fun
  | [] => none
  | b :: rest => some (b, rest)

def word : Reader UInt16 := do
  let high ← octet
  let low ← octet
  return Word.ofOctets high low

def octets (n : Nat) : Reader (Octets n) := fun bytes =>
  if h : n ≤ bytes.length then
    some (⟨bytes.take n, List.length_take_of_le h⟩, bytes.drop n)
  else none

/-- Goes on only if the condition holds, and takes nothing. -/
def check (ok : Bool) : Reader Unit := fun bytes => if ok then some ((), bytes) else none

/-- Goes on with a value that has been decided already, and takes nothing. -/
def lift {α : Type} (decided : Option α) : Reader α := fun bytes => decided.map (·, bytes)

/-- Runs one reader `n` times. -/
def times {α : Type} (read : Reader α) : Nat → Reader (List α)
  | 0 => return []
  | n + 1 => do
    let item ← read
    let items ← times read n
    return item :: items

theorem bind_eq {α β : Type} (read : Reader α) (next : α → Reader β) (bytes : Bytes) :
    (read >>= next) bytes = (read bytes).bind fun r => next r.1 r.2 := rfl

theorem bind_of_eq_some {α β : Type} {read : Reader α} {bytes rest : Bytes} {a : α}
    (h : read bytes = some (a, rest)) (next : α → Reader β) :
    (read >>= next) bytes = next a rest := by
  rw [bind_eq, h]
  rfl

theorem check_true (bytes : Bytes) : check true bytes = some ((), bytes) := rfl

theorem map_eq {α β : Type} (f : α → β) (read : Reader α) (bytes : Bytes) :
    (f <$> read) bytes = (read bytes).map fun r => (f r.1, r.2) := by
  cases h : read bytes <;> simp [Functor.map, StateT.map, h]

theorem pure_eq {α : Type} (a : α) (bytes : Bytes) : (pure a : Reader α) bytes = some (a, bytes) :=
  rfl

@[simp] theorem lift_some {α : Type} (a : α) (bytes : Bytes) :
    lift (some a) bytes = some (a, bytes) := rfl

@[simp] theorem octet_cons (b : UInt8) (rest : Bytes) : octet (b :: rest) = some (b, rest) := rfl

theorem word_cons (a b : UInt8) (rest : Bytes) :
    word (a :: b :: rest) = some (Word.ofOctets a b, rest) := rfl

@[simp] theorem word_append (w : UInt16) (rest : Bytes) :
    word (Word.encode w ++ rest) = some (w, rest) := by
  simp [Word.encode, word_cons]

@[simp] theorem octets_append {n : Nat} (o : Octets n) (rest : Bytes) :
    octets n (o.val ++ rest) = some (o, rest) := by
  obtain ⟨bytes, rfl⟩ := o
  simp [octets]

theorem times_append {α : Type} {read : Reader α} {encode : α → Bytes}
    (h : ∀ a rest, read (encode a ++ rest) = some (a, rest)) (items : List α) (rest : Bytes) :
    times read items.length (items.flatMap encode ++ rest) = some (items, rest) := by
  induction items with
  | nil => rfl
  | cons item items ih => simp [times, bind_eq, map_eq, h, ih]

end Reader
end Srv6Traffic
