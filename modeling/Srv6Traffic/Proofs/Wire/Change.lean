import Srv6Traffic.Proofs.Wire.OnesTotal
import Srv6Traffic.Proofs.Wire.Place

/-! Octet strings that differ in one octet. The place of that octet is carried along when strings are
put together or taken apart. One's-complement sums tell any two such strings from each other: an octet
counts once or 256 times, and neither difference is a multiple of 65535. -/
namespace Srv6Traffic

/-- The strings have different octets at place `i`, and the same ones everywhere else. -/
inductive DifferAt : Nat → Bytes → Bytes → Prop
  | here {x y : UInt8} (rest : Bytes) : x ≠ y → DifferAt 0 (x :: rest) (y :: rest)
  | there {i : Nat} {a b : Bytes} (x : UInt8) : DifferAt i a b → DifferAt (i + 1) (x :: a) (x :: b)

namespace DifferAt
variable {i k : Nat} {a b rest : Bytes}

theorem of_getElem? (length : b.length = a.length) (there : b[i]? ≠ a[i]?)
    (elsewhere : ∀ k, k ≠ i → b[k]? = a[k]?) : DifferAt i a b := by
  induction i generalizing a b with
  | zero =>
    cases a with
    | nil => simp_all
    | cons x a =>
      cases b with
      | nil => simp at length
      | cons y b =>
        have tail : b = a := List.ext_getElem? fun k => by simpa using elsewhere (k + 1) (by simp)
        rw [tail]
        exact .here a fun same => there (by simp [same])
  | succ i ih =>
    cases a with
    | nil => simp_all
    | cons x a =>
      cases b with
      | nil => simp at length
      | cons y b =>
        have head : y = x := by simpa using elsewhere 0 (by simp)
        rw [head]
        refine .there x (ih (by simpa using length) (by simpa using there) ?_)
        intro k away
        simpa using elsewhere (k + 1) (by omega)

theorem length_eq (differ : DifferAt i a b) : b.length = a.length := by
  induction differ with
  | here rest _ => rfl
  | there x _ ih => rw [List.length_cons, List.length_cons, ih]

theorem octetAt_eq (differ : DifferAt i a b) (away : k ≠ i) : octetAt b k = octetAt a k := by
  induction differ generalizing k with
  | here rest _ =>
    cases k with
    | zero => exact absurd rfl away
    | succ k => rfl
  | there x _ ih =>
    cases k with
    | zero => rfl
    | succ k => exact ih fun same => away (congrArg (· + 1) same)

theorem wordAt_eq (differ : DifferAt i a b) (high : k ≠ i) (low : k + 1 ≠ i) :
    wordAt b k = wordAt a k := by
  rw [wordAt, wordAt, differ.octetAt_eq high, differ.octetAt_eq low]

theorem append_left (front : Bytes) (differ : DifferAt i a b) :
    DifferAt (front.length + i) (front ++ a) (front ++ b) := by
  induction front with
  | nil => simpa using differ
  | cons x front ih =>
    rw [List.length_cons, Nat.add_right_comm]
    exact .there x ih

/-- A difference behind a front part leaves that part as it is. -/
theorem of_append_left {front : Bytes} (differ : DifferAt (front.length + i) (front ++ a) b) :
    ∃ b', b = front ++ b' ∧ DifferAt i a b' := by
  induction front generalizing b with
  | nil => exact ⟨b, rfl, by simpa using differ⟩
  | cons x front ih =>
    rw [List.length_cons, Nat.add_right_comm] at differ
    cases differ with
    | there _ behind =>
      obtain ⟨b', rfl, differ'⟩ := ih behind
      exact ⟨b', rfl, differ'⟩

/-- A difference in a front part leaves what comes after it as it is. -/
theorem of_append_right (differ : DifferAt i (a ++ rest) b) (inside : i < a.length) :
    ∃ a', b = a' ++ rest ∧ DifferAt i a a' := by
  induction a generalizing i b with
  | nil => cases inside
  | cons x a ih =>
    cases differ with
    | here _ differs => exact ⟨_ :: a, rfl, .here a differs⟩
    | there _ behind =>
      obtain ⟨a', rfl, differ'⟩ := ih behind (Nat.lt_of_succ_lt_succ inside)
      exact ⟨x :: a', rfl, .there x differ'⟩

end DifferAt

namespace OnesSum
/-- The totals are apart, but by less than it takes to come round to the same sum. -/
def Apart (m n : Nat) : Prop := (m < n ∧ n < m + 65535) ∨ (n < m ∧ m < n + 65535)

theorem fold_ne_of_apart {m n : Nat} (apart : Apart m n) : fold m ≠ fold n := by
  unfold Apart at apart
  by_cases zero : m = 0
  · rw [zero, fold_zero, fold_of_pos (by omega)]
    omega
  · by_cases zero' : n = 0
    · rw [zero', fold_zero, fold_of_pos (by omega)]
      omega
    · rw [fold_of_pos (by omega), fold_of_pos (by omega)]
      omega

theorem Apart.add_left {m n : Nat} (apart : Apart m n) (k : Nat) : Apart (k + m) (k + n) := by
  unfold Apart at apart ⊢
  omega

theorem Apart.add_right {m n : Nat} (apart : Apart m n) (k : Nat) : Apart (m + k) (n + k) := by
  rw [Nat.add_comm m, Nat.add_comm n]
  exact apart.add_left k

theorem apart_high {x y : UInt8} (differs : x ≠ y) : Apart (256 * x.toNat) (256 * y.toNat) := by
  have := x.toNat_lt
  have := y.toNat_lt
  have := mt UInt8.toNat_inj.1 differs
  unfold Apart
  omega

theorem apart_low {x y : UInt8} (differs : x ≠ y) : Apart x.toNat y.toNat := by
  have := apart_high differs
  unfold Apart at this ⊢
  omega

theorem total_apart {i : Nat} {a b : Bytes} (differ : DifferAt i a b) : Apart (total a) (total b) := by
  -- High and low octets take turns, so the induction goes by two octets at a time.
  induction a using total.induct generalizing i b with
  | case1 => cases differ
  | case2 x =>
    cases differ with
    | here _ differs => exact apart_high differs
    | there _ behind => cases behind
  | case3 x z rest ih =>
    cases differ with
    | here _ differs => exact ((apart_high differs).add_right _).add_right _
    | there _ behind =>
      cases behind with
      | here _ differs => exact ((apart_low differs).add_left _).add_right _
      | there _ behind => exact (ih behind).add_left _

/-- No change of a single octet is lost in the sum. -/
theorem sum_ne_of_differAt {i : Nat} {a b : Bytes} (differ : DifferAt i a b) : sum a ≠ sum b :=
  fold_ne_of_apart (total_apart differ)

end OnesSum
end Srv6Traffic
