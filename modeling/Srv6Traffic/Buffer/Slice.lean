import Srv6Traffic.Buffer.Writer

/-! Windows on the data of a shared buffer. A buffer carries a serial number that tells it from
others with the same contents, so that two slices can be asked whether they look into one buffer. -/
namespace Srv6Traffic

structure SharedBuffer where
  serial : Nat
  writer : Writer
  deriving DecidableEq

structure Slice where
  buffer : SharedBuffer
  start : Nat
  stop : Nat
  start_le : start ≤ stop
  stop_le : stop ≤ buffer.writer.dataLength

namespace Slice

def length (s : Slice) : Nat := s.stop - s.start
def isEmpty (s : Slice) : Bool := s.length == 0
def data (s : Slice) : Bytes := (s.buffer.writer.data.drop s.start).take (s.stop - s.start)

/-- Slices are equal that show the same octets, wherever those are kept. -/
instance : BEq Slice := ⟨fun a b => a.data == b.data⟩

def sharesBuffer (a b : Slice) : Bool := a.buffer.serial == b.buffer.serial

def whole (buffer : SharedBuffer) : Slice :=
  ⟨buffer, 0, buffer.writer.dataLength, Nat.zero_le _, Nat.le_refl _⟩

def ofBytes (serial : Nat) (bytes : Bytes) : Slice := whole ⟨serial, .full bytes⟩

def window? (buffer : SharedBuffer) (start stop : Nat) : Option Slice :=
  if h : start ≤ stop ∧ stop ≤ buffer.writer.dataLength then some ⟨buffer, start, stop, h.1, h.2⟩
  else none

/-- Splits off the first `n` octets: the front, and what stays. -/
def popFront? (s : Slice) (n : Nat) : Option (Slice × Slice) :=
  if h : s.start + n ≤ s.stop then
    some (
      { s with
        stop := s.start + n
        start_le := Nat.le_add_right ..
        stop_le := Nat.le_trans h s.stop_le },
      { s with start := s.start + n, start_le := h })
  else none

theorem length_data (s : Slice) : s.data.length = s.length := by
  have := s.stop_le
  have := s.buffer.writer.start_le
  have := s.buffer.writer.stop_le
  simp only [Writer.dataLength] at *
  simp only [data, Writer.data, length, List.length_take, List.length_drop]
  omega

theorem popFront?_of_le {s : Slice} {n : Nat} (h : n ≤ s.length) :
    ∃ front rest, s.popFront? n = some (front, rest) ∧ front.data = s.data.take n ∧
      rest.data = s.data.drop n ∧ front.buffer = s.buffer ∧ rest.buffer = s.buffer := by
  have := s.start_le
  have fits : s.start + n ≤ s.stop := by unfold length at h; omega
  refine ⟨_, _, dif_pos fits, ?_, ?_, rfl, rfl⟩
  · simp only [data, List.take_take]
    congr 1
    omega
  · simp only [data, List.drop_take, List.drop_drop]
    congr 1
    omega

theorem data_popFront? {s front rest : Slice} {n : Nat} (h : s.popFront? n = some (front, rest)) :
    s.data = front.data ++ rest.data := by
  simp only [popFront?] at h
  split at h
  next fits =>
    cases h
    simp only [data]
    rw [← List.take_append_drop n ((s.buffer.writer.data.drop s.start).take (s.stop - s.start)),
      List.take_take, List.drop_take, List.drop_drop]
    congr 2 <;> omega
  next => cases h

end Slice
end Srv6Traffic
