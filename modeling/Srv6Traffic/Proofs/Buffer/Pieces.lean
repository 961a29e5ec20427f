import Srv6Traffic.Proofs.Buffer.Views

/-! Taking a slice apart. Pieces are split off its front one after the other, and whoever has put them down
side by side has, with what stays, all that was shown in the beginning. -/
namespace Srv6Traffic.Slice

/-- Pieces split off the front of a slice one after the other, and what stays. -/
inductive Pops : Slice → List Slice → Slice → Prop
  | nil (s : Slice) : Pops s [] s
  | cons {s front rest left : Slice} {n : Nat} {pieces : List Slice}
      (popped : s.popFront? n = some (front, rest)) (others : Pops rest pieces left) :
      Pops s (front :: pieces) left

/-- What slices show side by side. -/
def shown (pieces : List Slice) : Bytes := pieces.flatMap data

/-- The octets by which a slice has become shorter at its front. -/
def lost (s left : Slice) : Bytes := s.data.take (s.length - left.length)

namespace Pops
variable {s mid left : Slice} {pieces others : List Slice}

theorem single {front : Slice} {n : Nat} (popped : s.popFront? n = some (front, left)) :
    Pops s [front] left :=
  .cons popped (.nil left)

theorem append (first : Pops s pieces mid) (second : Pops mid others left) :
    Pops s (pieces ++ others) left := by
  induction first with
  | nil => exact second
  | cons popped _ ih => exact .cons popped (ih second)

/-- Nothing is lost between the pieces. -/
theorem data_eq (pops : Pops s pieces left) : shown pieces ++ left.data = s.data := by
  induction pops with
  | nil => rfl
  | cons popped _ ih =>
    rw [shown, List.flatMap_cons, List.append_assoc, data_popFront? popped, ← ih]
    rfl

theorem buffer_eq (pops : Pops s pieces left) : left.buffer = s.buffer := by
  induction pops with
  | nil => rfl
  | cons popped _ ih => exact ih.trans (popFront?_eq_some popped).2.2.2.2

theorem buffer_of_mem (pops : Pops s pieces left) {piece : Slice} (taken : piece ∈ pieces) :
    piece.buffer = s.buffer := by
  induction pops with
  | nil => cases taken
  | cons popped _ ih =>
    obtain ⟨_, _, _, front, rest⟩ := popFront?_eq_some popped
    cases taken with
    | head => exact front
    | tail _ later => exact (ih later).trans rest

theorem drop_eq (pops : Pops s pieces left) : left.data = s.data.drop (shown pieces).length := by
  rw [← pops.data_eq, List.drop_left]

theorem lost_eq (pops : Pops s pieces left) : s.lost left = shown pieces := by
  have whole := congrArg List.length pops.data_eq
  rw [List.length_append, s.length_data, left.length_data] at whole
  have shorter : s.length - left.length = (shown pieces).length := by omega
  rw [lost, shorter, ← pops.data_eq, List.take_left]

end Pops
end Srv6Traffic.Slice
