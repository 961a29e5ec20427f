import Srv6Traffic.Wire.Word

/-! A buffer that grows towards both ends: data between two marks, with free space before and after
it. Headers are prepended to a payload without moving it. Views are `front`, `data` and `back`. -/
namespace Srv6Traffic

/-- Puts octets in place of those from an offset on. -/
def overwrite (buffer : Bytes) (offset : Nat) (bytes : Bytes) : Bytes :=
  buffer.take offset ++ (bytes ++ buffer.drop (offset + bytes.length))

theorem length_overwrite {buffer : Bytes} {offset : Nat} {bytes : Bytes}
    (h : offset + bytes.length ≤ buffer.length) :
    (overwrite buffer offset bytes).length = buffer.length := by
  simp only [overwrite, List.length_append, List.length_take, List.length_drop]
  omega

structure Writer where
  buffer : Bytes
  start : Nat
  stop : Nat
  start_le : start ≤ stop
  stop_le : stop ≤ buffer.length
  deriving DecidableEq

namespace Writer

def front (w : Writer) : Bytes := w.buffer.take w.start
def data (w : Writer) : Bytes := (w.buffer.drop w.start).take (w.stop - w.start)
def back (w : Writer) : Bytes := w.buffer.drop w.stop

def frontLength (w : Writer) : Nat := w.start
def dataLength (w : Writer) : Nat := w.stop - w.start
def backLength (w : Writer) : Nat := w.buffer.length - w.stop
def isEmpty (w : Writer) : Bool := w.dataLength == 0

/-- An empty writer with zeroed space on both sides. -/
def zeroed (front back : Nat) : Writer :=
  ⟨List.replicate (front + back) 0, front, front, Nat.le_refl _, by simp⟩

/-- An empty writer of `length` octets in all, `headroom` of them in front. -/
def new? (length headroom : Nat) : Option Writer :=
  if headroom ≤ length then some (zeroed headroom (length - headroom)) else none

def ofBytes? (buffer : Bytes) (start stop : Nat) : Option Writer :=
  if h : start ≤ stop ∧ stop ≤ buffer.length then some ⟨buffer, start, stop, h.1, h.2⟩ else none

/-- A writer whose data is all there is. -/
def full (buffer : Bytes) : Writer := ⟨buffer, 0, buffer.length, Nat.zero_le _, Nat.le_refl _⟩

def growFront? (w : Writer) (n : Nat) : Option Writer :=
  if n ≤ w.frontLength then
    some { w with start := w.start - n, start_le := Nat.le_trans (Nat.sub_le ..) w.start_le }
  else none

def growBack? (w : Writer) (n : Nat) : Option Writer :=
  if h : n ≤ w.backLength then
    some { w with
      stop := w.stop + n
      start_le := Nat.le_add_right_of_le w.start_le
      stop_le := by have := w.stop_le; unfold backLength at h; omega }
  else none

/-- Writes octets over those from `offset` on, and moves no mark. -/
def put (w : Writer) (offset : Nat) (bytes : Bytes) (h : offset + bytes.length ≤ w.buffer.length) :
    Writer :=
  { w with
    buffer := overwrite w.buffer offset bytes
    stop_le := Nat.le_trans w.stop_le (Nat.le_of_eq (length_overwrite h).symm) }

def append? (w : Writer) (bytes : Bytes) : Option Writer :=
  if h : bytes.length ≤ w.backLength then
    (w.put w.stop bytes (by have := w.stop_le; unfold backLength at h; omega)).growBack? bytes.length
  else none

def prepend? (w : Writer) (bytes : Bytes) : Option Writer :=
  if h : bytes.length ≤ w.frontLength then
    (w.put (w.start - bytes.length) bytes (by
      have := w.start_le
      have := w.stop_le
      unfold frontLength at h
      omega)).growFront? bytes.length
  else none

def putFront? (w : Writer) (offset : Nat) (bytes : Bytes) : Option Writer :=
  if h : offset + bytes.length ≤ w.frontLength then
    some (w.put offset bytes (Nat.le_trans h (Nat.le_trans w.start_le w.stop_le)))
  else none

def putData? (w : Writer) (offset : Nat) (bytes : Bytes) : Option Writer :=
  if h : offset + bytes.length ≤ w.dataLength then
    some (w.put (w.start + offset) bytes (by
      have := w.start_le
      have := w.stop_le
      unfold dataLength at h
      omega))
  else none

def putBack? (w : Writer) (offset : Nat) (bytes : Bytes) : Option Writer :=
  if h : offset + bytes.length ≤ w.backLength then
    some (w.put (w.stop + offset) bytes (by have := w.stop_le; unfold backLength at h; omega))
  else none

theorem length_buffer (w : Writer) :
    w.frontLength + w.dataLength + w.backLength = w.buffer.length := by
  have := w.start_le
  have := w.stop_le
  unfold frontLength dataLength backLength
  omega

theorem buffer_eq (w : Writer) : w.buffer = w.front ++ (w.data ++ w.back) := by
  have rest : w.buffer.drop w.stop = (w.buffer.drop w.start).drop (w.stop - w.start) := by
    rw [List.drop_drop, Nat.add_sub_cancel' w.start_le]
  simp only [front, data, back, rest, List.take_append_drop]

end Writer
end Srv6Traffic
