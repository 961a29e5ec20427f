import Srv6Traffic.Buffer.Edit
import Srv6Traffic.Proofs.Buffer.Views

/-! A writer as its three parts: free octets in front, data, and free octets behind. What an edit does to
the parts depends on the parts alone. The two marks and the one buffer below are never seen. -/
namespace Srv6Traffic
open Writer (Edit EditError)

structure Parts where
  front : Bytes
  data : Bytes
  back : Bytes
  deriving DecidableEq

namespace Parts

def length (p : Parts) : Nat := p.front.length + p.data.length + p.back.length

/-- How many octets of a part an edit asks for. -/
def need : Edit → Nat
  | .append bytes | .prepend bytes => bytes.length
  | .growFront n | .growBack n => n
  | .putFront offset bytes | .putData offset bytes | .putBack offset bytes => offset + bytes.length

/-- How many octets the part that an edit is about has. -/
def room (p : Parts) : Edit → Nat
  | .prepend _ | .growFront _ | .putFront _ _ => p.front.length
  | .putData _ _ => p.data.length
  | .append _ | .growBack _ | .putBack _ _ => p.back.length

/-- New octets from an offset on. All others stay as they are. -/
def replace (part : Bytes) (offset : Nat) (bytes : Bytes) : Bytes :=
  part.mapIdx fun i b => if i < offset then b else bytes.getD (i - offset) b

def make (p : Parts) : Edit → Parts
  | .append bytes => { p with data := p.data ++ bytes, back := p.back.drop bytes.length }
  | .prepend bytes =>
    { p with front := p.front.take (p.front.length - bytes.length), data := bytes ++ p.data }
  | .growFront n =>
    { p with
      front := p.front.take (p.front.length - n)
      data := p.front.drop (p.front.length - n) ++ p.data }
  | .growBack n => { p with data := p.data ++ p.back.take n, back := p.back.drop n }
  | .putFront offset bytes => { p with front := replace p.front offset bytes }
  | .putData offset bytes => { p with data := replace p.data offset bytes }
  | .putBack offset bytes => { p with back := replace p.back offset bytes }

def edit? (p : Parts) (e : Edit) : Option Parts := if need e ≤ p.room e then some (p.make e) else none

/-- What comes of a list of edits: for each the reason why it is refused, if it is, and in the end the
parts. -/
def run (p : Parts) : List Edit → List (Option EditError) × Parts
  | [] => ([], p)
  | e :: edits =>
    match p.edit? e with
    | some q => ((none :: (q.run edits).1), (q.run edits).2)
    | none => ((some e.refusal :: (p.run edits).1), (p.run edits).2)

theorem length_replace (part : Bytes) (offset : Nat) (bytes : Bytes) :
    (replace part offset bytes).length = part.length := by
  simp [replace]

/-- No edit makes room, and none takes any away. -/
theorem length_edit? {p q : Parts} {e : Edit} (made : p.edit? e = some q) : q.length = p.length := by
  unfold edit? at made
  by_cases fits : need e ≤ p.room e
  · rw [if_pos fits] at made
    cases made
    cases e <;> simp [need, room] at fits <;> simp [make, length, length_replace] <;> omega
  · rw [if_neg fits] at made
    cases made

theorem length_run (p : Parts) (edits : List Edit) : (p.run edits).2.length = p.length := by
  induction edits generalizing p with
  | nil => rfl
  | cons e edits ih =>
    cases made : p.edit? e with
    | none => simp [run, made, ih]
    | some q => simp [run, made, ih, length_edit? made]

end Parts

/-- Writing over octets changes those that are written over, and no others. -/
theorem overwrite_eq_replace {part bytes : Bytes} {offset : Nat}
    (inside : offset + bytes.length ≤ part.length) :
    overwrite part offset bytes = Parts.replace part offset bytes := by
  have front : (part.take offset).length = offset := List.length_take_of_le (by omega)
  apply List.ext_getElem?
  intro i
  rw [overwrite, Parts.replace, List.getElem?_mapIdx]
  by_cases before : i < offset
  · rw [List.getElem?_append_left (by omega), List.getElem?_take_of_lt before]
    simp [before]
  rw [List.getElem?_append_right (by omega), front]
  by_cases within : i - offset < bytes.length
  · have there : i < part.length := by omega
    rw [List.getElem?_append_left within]
    simp [before, there, within]
  · have place : offset + bytes.length + (i - offset - bytes.length) = i := by omega
    rw [List.getElem?_append_right (by omega), List.getElem?_drop, place]
    simp [before, within]

theorem overwrite_append_left {part bytes : Bytes} {offset : Nat} (rest : Bytes)
    (inside : offset + bytes.length ≤ part.length) :
    overwrite (part ++ rest) offset bytes = overwrite part offset bytes ++ rest := by
  have before : offset ≤ part.length := by omega
  simp only [overwrite, List.append_assoc, List.take_append_of_le_length before,
    List.drop_append_of_le_length inside]

theorem overwrite_append_right (before part : Bytes) (offset : Nat) (bytes : Bytes) :
    overwrite (before ++ part) (before.length + offset) bytes =
      before ++ overwrite part offset bytes := by
  simp only [overwrite, Nat.add_assoc, List.take_length_add_append, List.drop_length_add_append,
    List.append_assoc]

namespace Writer
variable {w : Writer}

def parts (w : Writer) : Parts := ⟨w.front, w.data, w.back⟩

@[simp] theorem length_parts (w : Writer) : w.parts.length = w.buffer.length := by
  simp [parts, Parts.length, length_front, length_data, length_back, length_buffer]

theorem room_parts (w : Writer) (e : Edit) : w.parts.room e =
    match e with
    | .prepend _ | .growFront _ | .putFront _ _ => w.frontLength
    | .putData _ _ => w.dataLength
    | .append _ | .growBack _ | .putBack _ _ => w.backLength := by
  cases e <;> simp [parts, Parts.room, length_front, length_data, length_back]

/-- The parts of a writer are those that its marks cut the buffer into. -/
theorem parts_eq {p : Parts} (whole : w.buffer = p.front ++ (p.data ++ p.back))
    (start : w.start = p.front.length) (stop : w.stop = p.front.length + p.data.length) :
    w.parts = p := by
  obtain ⟨front, data, back⟩ := views_eq whole start stop
  rw [parts, front, data, back]

theorem stop_eq (w : Writer) : w.stop = w.front.length + w.data.length := by
  have := w.start_le
  rw [length_front, length_data, frontLength, dataLength]
  omega

theorem growFront?_of_le {n : Nat} (fits : n ≤ w.frontLength) :
    ∃ w', w.growFront? n = some w' ∧ w'.parts = w.parts.make (.growFront n) := by
  have front := w.length_front
  refine ⟨_, if_pos fits, parts_eq ?_ ?_ ?_⟩
  · simp only [parts, Parts.make]
    rw [List.append_assoc, ← List.append_assoc (w.front.take _), List.take_append_drop]
    exact w.buffer_eq
  · simp [parts, Parts.make, front, frontLength]
  · have := w.stop_eq
    simp [parts, Parts.make]
    omega

theorem growBack?_of_le {n : Nat} (fits : n ≤ w.backLength) :
    ∃ w', w.growBack? n = some w' ∧ w'.parts = w.parts.make (.growBack n) := by
  have back := w.length_back
  refine ⟨_, dif_pos fits, parts_eq ?_ ?_ ?_⟩
  · simpa [parts, Parts.make] using w.buffer_eq
  · simp [parts, Parts.make, length_front, frontLength]
  · have := w.stop_eq
    simp [parts, Parts.make]
    omega

/-- A write moves no mark, so it is enough to know the parts of the buffer and how long they are. -/
theorem parts_put {offset : Nat} {bytes : Bytes} {p : Parts}
    (inside : offset + bytes.length ≤ w.buffer.length)
    (whole : overwrite w.buffer offset bytes = p.front ++ (p.data ++ p.back))
    (front : p.front.length = w.front.length) (data : p.data.length = w.data.length) :
    (w.put offset bytes inside).parts = p := by
  apply parts_eq whole
  · rw [front, length_front]
    rfl
  · rw [front, data, ← stop_eq]
    rfl

theorem putFront?_of_le {offset : Nat} {bytes : Bytes}
    (fits : offset + bytes.length ≤ w.frontLength) :
    ∃ w', w.putFront? offset bytes = some w' ∧ w'.parts = w.parts.make (.putFront offset bytes) := by
  refine ⟨_, dif_pos fits, parts_put _ ?_ (Parts.length_replace ..) rfl⟩
  rw [← length_front] at fits
  rw [buffer_eq, overwrite_append_left _ fits, overwrite_eq_replace fits]
  rfl

theorem putData?_of_le {offset : Nat} {bytes : Bytes}
    (fits : offset + bytes.length ≤ w.dataLength) :
    ∃ w', w.putData? offset bytes = some w' ∧ w'.parts = w.parts.make (.putData offset bytes) := by
  refine ⟨_, dif_pos fits, parts_put _ ?_ rfl (Parts.length_replace ..)⟩
  rw [← length_data] at fits
  rw [buffer_eq, ← frontLength, ← length_front, overwrite_append_right,
    overwrite_append_left _ fits, overwrite_eq_replace fits]
  rfl

theorem putBack?_of_le {offset : Nat} {bytes : Bytes}
    (fits : offset + bytes.length ≤ w.backLength) :
    ∃ w', w.putBack? offset bytes = some w' ∧ w'.parts = w.parts.make (.putBack offset bytes) := by
  refine ⟨_, dif_pos fits, parts_put _ ?_ rfl rfl⟩
  rw [← length_back] at fits
  rw [buffer_eq, stop_eq, Nat.add_assoc, overwrite_append_right, overwrite_append_right,
    overwrite_eq_replace fits]
  rfl

/-- With room enough an edit is made, and it makes of the parts what it does to three separate ones. -/
theorem edit?_of_fits {e : Edit} (fits : Parts.need e ≤ w.parts.room e) :
    ∃ w', w.edit? e = some w' ∧ w'.parts = w.parts.make e := by
  rw [room_parts] at fits
  cases e with
  | append bytes =>
    obtain ⟨w', done, front, data, back⟩ := append?_of_le fits
    exact ⟨w', done, by simp [parts, Parts.make, front, data, back]⟩
  | prepend bytes =>
    obtain ⟨w', done, front, data, back⟩ := prepend?_of_le fits
    exact ⟨w', done, by simp [parts, Parts.make, front, data, back, length_front]⟩
  | growFront n => exact growFront?_of_le fits
  | growBack n => exact growBack?_of_le fits
  | putFront offset bytes => exact putFront?_of_le fits
  | putData offset bytes => exact putData?_of_le fits
  | putBack offset bytes => exact putBack?_of_le fits

theorem edit?_of_short {e : Edit} (short : ¬ Parts.need e ≤ w.parts.room e) : w.edit? e = none := by
  rw [room_parts] at short
  cases e with
  | append bytes => exact dif_neg short
  | prepend bytes => exact dif_neg short
  | growFront n => exact if_neg short
  | growBack n => exact dif_neg short
  | putFront offset bytes => exact dif_neg short
  | putData offset bytes => exact dif_neg short
  | putBack offset bytes => exact dif_neg short

theorem parts_edit? (w : Writer) (e : Edit) : (w.edit? e).map parts = w.parts.edit? e := by
  by_cases fits : Parts.need e ≤ w.parts.room e
  · obtain ⟨w', done, made⟩ := edit?_of_fits fits
    rw [done, Parts.edit?, if_pos fits, Option.map_some, made]
  · rw [edit?_of_short fits, Parts.edit?, if_neg fits, Option.map_none]

end Writer
end Srv6Traffic
