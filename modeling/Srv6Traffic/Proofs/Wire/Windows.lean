import Srv6Traffic.Wire.Word

/-! Octet strings of one length that agree outside of some windows. They are put together part by part: a
part is the same on both sides, or there is a window over it. -/
namespace Srv6Traffic

structure Window where
  place : Nat
  size : Nat
  deriving DecidableEq

def Window.Covers (w : Window) (i : Nat) : Prop := w.place ≤ i ∧ i < w.place + w.size

/-- The strings stand at a place `n`, from which the windows are told as well. -/
inductive AgreeOutside : Nat → List Window → Bytes → Bytes → Prop
  | rest {n : Nat} (part : Bytes) : AgreeOutside n [] part part
  | same {n k : Nat} {windows : List Window} {a b : Bytes} (part : Bytes) (size : part.length = k) :
      AgreeOutside (n + k) windows a b → AgreeOutside n windows (part ++ a) (part ++ b)
  | window {n k : Nat} {windows : List Window} {a b x y : Bytes} (size : x.length = k) (size' : y.length = k) :
      AgreeOutside (n + k) windows a b → AgreeOutside n (⟨n, k⟩ :: windows) (x ++ a) (y ++ b)

namespace AgreeOutside
variable {n i : Nat} {windows : List Window} {a b : Bytes}

theorem getElem?_eq (agree : AgreeOutside n windows a b) (outside : ∀ w ∈ windows, ¬w.Covers (n + i)) :
    a[i]? = b[i]? := by
  induction agree generalizing i with
  | rest part => rfl
  | @same n k windows a b part size _ ih =>
    by_cases inside : i < k
    · rw [List.getElem?_append_left (size ▸ inside), List.getElem?_append_left (size ▸ inside)]
    · have behind : k ≤ i := Nat.le_of_not_lt inside
      rw [List.getElem?_append_right (size ▸ behind), List.getElem?_append_right (size ▸ behind), size]
      have place : n + k + (i - k) = n + i := by omega
      exact ih (place.symm ▸ outside)
  | @window n k windows a b x y size size' _ ih =>
    have behind : k ≤ i := by
      have first : ¬(n ≤ n + i ∧ n + i < n + k) := outside ⟨n, k⟩ List.mem_cons_self
      omega
    rw [List.getElem?_append_right (size ▸ behind), List.getElem?_append_right (size' ▸ behind), size, size']
    have place : n + k + (i - k) = n + i := by omega
    exact ih (place.symm ▸ fun w there => outside w (List.mem_cons_of_mem _ there))

end AgreeOutside
end Srv6Traffic
