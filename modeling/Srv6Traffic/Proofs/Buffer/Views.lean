import Srv6Traffic.Buffer.Slice

/-! What the operations of a writer do to its three views. An operation that succeeds is one equation
for each of free front, data and free back, and the marks are never mentioned again. -/
namespace Srv6Traffic

namespace Writer

theorem length_front (w : Writer) : w.front.length = w.frontLength := by
  have := w.start_le
  have := w.stop_le
  rw [front, List.length_take, frontLength]
  omega

theorem length_data (w : Writer) : w.data.length = w.dataLength := by
  have := w.start_le
  have := w.stop_le
  rw [data, List.length_take, List.length_drop, dataLength]
  omega

theorem length_back (w : Writer) : w.back.length = w.backLength := by
  rw [back, List.length_drop, backLength]

/-- A buffer that is cut at the marks is cut into the views. -/
theorem views_eq {w : Writer} {f d b : Bytes} (whole : w.buffer = f ++ (d ++ b))
    (start : w.start = f.length) (stop : w.stop = f.length + d.length) :
    w.front = f ∧ w.data = d ∧ w.back = b := by
  refine ⟨?_, ?_, ?_⟩
  · rw [front, whole, start, List.take_left]
  · rw [data, whole, start, stop, List.drop_left, Nat.add_sub_cancel_left, List.take_left]
  · rw [back, whole, stop, ← List.drop_drop, List.drop_left, List.drop_left]

theorem views_zeroed (before after : Nat) :
    (zeroed before after).front = List.replicate before 0 ∧ (zeroed before after).data = [] ∧
      (zeroed before after).back = List.replicate after 0 := by
  apply views_eq
  · rw [List.nil_append, List.replicate_append_replicate]
    rfl
  · rw [List.length_replicate]
    rfl
  · rw [List.length_replicate]
    rfl

theorem overwrite_append {a old c new : Bytes} {offset : Nat} (place : offset = a.length)
    (same : old.length = new.length) :
    overwrite (a ++ (old ++ c)) offset new = a ++ (new ++ c) := by
  rw [overwrite, place, List.take_left, ← List.drop_drop, List.drop_left, ← same, List.drop_left]

theorem append?_of_le {w : Writer} {bytes : Bytes} (fits : bytes.length ≤ w.backLength) :
    ∃ w', w.append? bytes = some w' ∧ w'.front = w.front ∧ w'.data = w.data ++ bytes ∧
      w'.back = w.back.drop bytes.length := by
  have inside : w.stop + bytes.length ≤ w.buffer.length := by
    have := w.stop_le
    unfold backLength at fits
    omega
  have grows : bytes.length ≤ (w.put w.stop bytes inside).backLength := by
    change bytes.length ≤ (overwrite w.buffer w.stop bytes).length - w.stop
    rw [length_overwrite inside]
    exact fits
  refine ⟨_, (dif_pos fits).trans (dif_pos grows), ?_⟩
  have stop : w.stop = (w.front ++ w.data).length := by
    have := w.start_le
    rw [List.length_append, length_front, length_data, frontLength, dataLength]
    omega
  have size : (w.back.take bytes.length).length = bytes.length := by
    rw [List.length_take, length_back]
    omega
  have whole : w.buffer =
      (w.front ++ w.data) ++ (w.back.take bytes.length ++ w.back.drop bytes.length) := by
    rw [List.take_append_drop, List.append_assoc]
    exact w.buffer_eq
  apply views_eq
  · change overwrite w.buffer w.stop bytes = _
    rw [whole, overwrite_append stop size]
    simp only [List.append_assoc]
  · exact w.length_front.symm
  · rw [List.length_append, ← Nat.add_assoc, ← List.length_append, ← stop]
    rfl

theorem prepend?_of_le {w : Writer} {bytes : Bytes} (fits : bytes.length ≤ w.frontLength) :
    ∃ w', w.prepend? bytes = some w' ∧
      w'.front = w.front.take (w.frontLength - bytes.length) ∧ w'.data = bytes ++ w.data ∧
      w'.back = w.back := by
  refine ⟨_, (dif_pos fits).trans (if_pos fits), ?_⟩
  have start : w.start - bytes.length = (w.front.take (w.start - bytes.length)).length := by
    rw [List.length_take, length_front, frontLength]
    omega
  have size : (w.front.drop (w.start - bytes.length)).length = bytes.length := by
    unfold frontLength at fits
    rw [List.length_drop, length_front, frontLength]
    omega
  have whole : w.buffer = w.front.take (w.start - bytes.length) ++
      (w.front.drop (w.start - bytes.length) ++ (w.data ++ w.back)) := by
    rw [← List.append_assoc, List.take_append_drop]
    exact w.buffer_eq
  apply views_eq
  · change overwrite w.buffer (w.start - bytes.length) bytes = _
    rw [whole, overwrite_append start size, List.append_assoc]
    rfl
  · exact start
  · have := w.start_le
    have := w.stop_le
    unfold frontLength at fits
    change w.stop = (w.front.take (w.start - bytes.length)).length + (bytes ++ w.data).length
    rw [← start, List.length_append, length_data, dataLength]
    omega

/-- With room for the octets and `k` more in front, prepending leaves room for `k`. -/
theorem prepend?_of_room {w : Writer} {bytes : Bytes} {k : Nat}
    (room : w.frontLength = bytes.length + k) :
    ∃ w', w.prepend? bytes = some w' ∧ w'.frontLength = k ∧ w'.data = bytes ++ w.data ∧
      w'.back = w.back := by
  have fits : bytes.length ≤ w.frontLength := by omega
  obtain ⟨w', done, front, data, back⟩ := prepend?_of_le fits
  refine ⟨w', done, ?_, data, back⟩
  rw [← length_front, front, List.length_take, length_front]
  omega

end Writer

namespace Slice

/-- A slice of a whole buffer shows the data of its writer. -/
theorem data_whole (buffer : SharedBuffer) : (whole buffer).data = buffer.writer.data := by
  change (buffer.writer.data.drop 0).take (buffer.writer.dataLength - 0) = _
  rw [List.drop_zero, Nat.sub_zero, ← Writer.length_data, List.take_length]

@[simp] theorem data_ofBytes (serial : Nat) (bytes : Bytes) : (ofBytes serial bytes).data = bytes := by
  simp [ofBytes, whole, data, Writer.full, Writer.data, Writer.dataLength]

/-- A window that fits shows what stands between its marks, counted from where the data begins. -/
theorem window?_of_fits {buffer : SharedBuffer} {start stop : Nat}
    (fits : start ≤ stop ∧ stop ≤ buffer.writer.dataLength) :
    ∃ s, window? buffer start stop = some s ∧ s.buffer = buffer ∧
      s.data = (buffer.writer.data.drop start).take (stop - start) :=
  ⟨_, dif_pos fits, rfl, rfl⟩

theorem popFront?_eq_some {s front rest : Slice} {n : Nat} (popped : s.popFront? n = some (front, rest)) :
    n ≤ s.length ∧ front.data = s.data.take n ∧ rest.data = s.data.drop n ∧
      front.buffer = s.buffer ∧ rest.buffer = s.buffer := by
  have fits : n ≤ s.length := by
    unfold popFront? at popped
    split at popped
    next inside =>
      unfold length
      omega
    next => cases popped
  obtain ⟨front', rest', same, views⟩ := popFront?_of_le fits
  rw [popped] at same
  cases same
  exact ⟨fits, views⟩

end Slice
end Srv6Traffic
