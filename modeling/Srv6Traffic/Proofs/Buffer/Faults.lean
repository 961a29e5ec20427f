import Mathlib.Algebra.Group.Nat.Defs
import Srv6Traffic.Proofs.Buffer.Parts

/-! Editing without guarantees. A writer carries the proof that its marks are in order, so its edits have
nothing to check. Here the marks are bare numbers. Every place in the buffer is checked when it is used,
octets are copied before a mark moves, and a check that fails is a fault, which ends the run. No run ends
so. Step by step a bare writer does what the writer does, and a refusal leaves it as it was. -/
namespace Srv6Traffic
open Writer (Edit EditError)

/-- Why editing can break off: marks out of order, a place that is not in the buffer, octets copied to
where another number of them has room, or a length that is no machine word. -/
inductive Fault where
  | invariant
  | range
  | length
  | overflow
  deriving DecidableEq

def wordRange : Nat := 2 ^ 64

section
variable {ε σ : Type} {stop : ε} {holds : Prop} [Decidable holds]

/-- Goes on only if something holds, and else stops as it is told to. -/
def require (stop : ε) (holds : Prop) [Decidable holds] : EStateM ε σ Unit :=
  if holds then pure () else throw stop

theorem run_require (h : holds) (s : σ) : (require stop holds).run s = .ok () s := by
  rw [require, if_pos h, EStateM.run_pure]

theorem run_require_of_not (h : ¬ holds) (s : σ) : (require stop holds).run s = .error stop s := by
  rw [require, if_neg h]
  rfl

end

/-- A buffer and two marks, with nothing known about them. -/
structure BareWriter where
  buffer : Bytes
  start : Nat
  stop : Nat
  deriving DecidableEq

def Writer.bare (w : Writer) : BareWriter := ⟨w.buffer, w.start, w.stop⟩

namespace BareWriter

def Valid (w : BareWriter) : Prop := w.start ≤ w.stop ∧ w.stop ≤ w.buffer.length

instance (w : BareWriter) : Decidable w.Valid := inferInstanceAs (Decidable (_ ∧ _))

def checked (w : BareWriter) : Except Fault BareWriter :=
  if w.Valid then .ok w else .error .invariant

def new (length headroom : Nat) : Except Fault BareWriter :=
  checked ⟨List.replicate length 0, headroom, headroom⟩

def ofBytes (buffer : Bytes) (start stop : Nat) : Except Fault BareWriter :=
  checked ⟨buffer, start, stop⟩

end BareWriter

theorem Writer.valid_bare (w : Writer) : w.bare.Valid := ⟨w.start_le, w.stop_le⟩

abbrev Editing := EStateM (Fault ⊕ EditError) BareWriter

/-- A stretch of the buffer. -/
structure Region where
  start : Nat
  stop : Nat

namespace Editing

def add (a b : Nat) : Editing Nat := do
  require (.inl .overflow) (a + b < wordRange)
  return a + b

def sub (a b : Nat) : Editing Nat := do
  require (.inl .overflow) (b ≤ a)
  return a - b

def checkMarks : Editing Unit := do
  let w ← get
  require (.inl .invariant) w.Valid

def region (start stop : Nat) : Editing Region := do
  let w ← get
  require (.inl .range) (start ≤ stop ∧ stop ≤ w.buffer.length)
  return ⟨start, stop⟩

def frontSpace : Editing Region := do
  let w ← get
  region 0 w.start

def dataSpace : Editing Region := do
  let w ← get
  region w.start w.stop

def backSpace : Editing Region := do
  let w ← get
  region w.stop w.buffer.length

/-- The part of a region between two offsets into it. -/
def part (r : Region) (start stop : Nat) : Editing Region := do
  require (.inl .range) (start ≤ stop ∧ stop ≤ r.stop - r.start)
  return ⟨r.start + start, r.start + stop⟩

def fill (r : Region) (bytes : Bytes) : Editing Unit := do
  require (.inl .length) (r.stop - r.start = bytes.length)
  modify fun w => { w with buffer := overwrite w.buffer r.start bytes }

def fillPart (r : Region) (start stop : Nat) (bytes : Bytes) : Editing Unit := do
  let target ← part r start stop
  fill target bytes

def refuse : Editing Unit := throw (.inr .notEnoughSpace)

def growFront (n : Nat) : Editing Unit := do
  let w ← get
  if w.start < n then refuse
  else do
    let start ← sub w.start n
    set { w with start }
    checkMarks

def growBack (n : Nat) : Editing Unit := do
  let w ← get
  let stop ← add w.stop n
  if w.buffer.length < stop then refuse
  else do
    set { w with stop }
    checkMarks

def append (bytes : Bytes) : Editing Unit := do
  let w ← get
  let room ← sub w.buffer.length w.stop
  if room < bytes.length then refuse
  else do
    let space ← backSpace
    fillPart space 0 bytes.length bytes
    growBack bytes.length

def prepend (bytes : Bytes) : Editing Unit := do
  let w ← get
  if w.start < bytes.length then refuse
  else do
    let offset ← sub w.start bytes.length
    let space ← frontSpace
    fillPart space offset (space.stop - space.start) bytes
    growFront bytes.length

def put (space : Editing Region) (offset : Nat) (bytes : Bytes) : Editing Unit := do
  let r ← space
  fillPart r offset (offset + bytes.length) bytes

def perform : Edit → Editing Unit
  | .append bytes => append bytes
  | .prepend bytes => prepend bytes
  | .growFront n => growFront n
  | .growBack n => growBack n
  | .putFront offset bytes => put frontSpace offset bytes
  | .putData offset bytes => put dataSpace offset bytes
  | .putBack offset bytes => put backSpace offset bytes

end Editing

namespace Editing
variable {w : BareWriter} {a b start stop : Nat} {r : Region} {bytes : Bytes}

theorem run_add (small : a + b < wordRange) : (add a b).run w = .ok (a + b) w := by
  simp only [add, EStateM.run_bind, run_require small, EStateM.run_pure]

theorem run_sub (le : b ≤ a) : (sub a b).run w = .ok (a - b) w := by
  simp only [sub, EStateM.run_bind, run_require le, EStateM.run_pure]

theorem run_checkMarks (valid : w.Valid) : checkMarks.run w = .ok () w := by
  simp only [checkMarks, EStateM.run_bind, EStateM.run_get, run_require valid]

theorem run_region (ordered : start ≤ stop) (inside : stop ≤ w.buffer.length) :
    (region start stop).run w = .ok ⟨start, stop⟩ w := by
  simp only [region, EStateM.run_bind, EStateM.run_get, run_require (And.intro ordered inside),
    EStateM.run_pure]

theorem run_frontSpace (valid : w.Valid) : frontSpace.run w = .ok ⟨0, w.start⟩ w := by
  simp only [frontSpace, EStateM.run_bind, EStateM.run_get,
    run_region (Nat.zero_le _) (Nat.le_trans valid.1 valid.2)]

theorem run_dataSpace (valid : w.Valid) : dataSpace.run w = .ok ⟨w.start, w.stop⟩ w := by
  simp only [dataSpace, EStateM.run_bind, EStateM.run_get, run_region valid.1 valid.2]

theorem run_backSpace (valid : w.Valid) : backSpace.run w = .ok ⟨w.stop, w.buffer.length⟩ w := by
  simp only [backSpace, EStateM.run_bind, EStateM.run_get, run_region valid.2 (Nat.le_refl _)]

/-- Octets that have room in a region are written to their place in the buffer, and no mark moves. -/
theorem run_fillPart (w : Writer) {place : Nat} (ordered : start ≤ stop) (inside : stop ≤ r.stop - r.start)
    (same : stop - start = bytes.length) (there : r.start + start = place)
    (fits : place + bytes.length ≤ w.buffer.length) :
    (fillPart r start stop bytes).run w.bare = .ok () (w.put place bytes fits).bare := by
  subst there
  have length : r.start + stop - (r.start + start) = bytes.length := by omega
  simp only [fillPart, part, fill, EStateM.run_bind, run_require (And.intro ordered inside),
    EStateM.run_pure, run_require length, EStateM.run_modify]
  rfl

/-- What an edit of a writer comes to on the bare one. A refused edit has changed nothing. -/
def shown (w : Writer) (refusal : EditError) :
    Option Writer → EStateM.Result (Fault ⊕ EditError) BareWriter Unit
  | some w' => .ok () w'.bare
  | none => .error (.inr refusal) w.bare

section
variable (w : Writer)

theorem growFront_bare (n : Nat) : (growFront n).run w.bare = shown w .notEnoughSpace (w.growFront? n) := by
  by_cases fits : n ≤ w.start
  · let grown : Writer :=
      { w with start := w.start - n, start_le := Nat.le_trans (Nat.sub_le ..) w.start_le }
    have made : w.growFront? n = some grown := if_pos fits
    simp only [growFront, EStateM.run_bind, EStateM.run_get, Writer.bare, Nat.not_lt.2 fits, if_false,
      run_sub fits, EStateM.run_set, made, shown]
    exact run_checkMarks grown.valid_bare
  · have refused : w.growFront? n = none := if_neg fits
    simp only [growFront, EStateM.run_bind, EStateM.run_get, Writer.bare, Nat.not_le.1 fits, if_true,
      refuse, EStateM.run_throw, refused, shown]

theorem growBack_bare {n : Nat} (small : w.stop + n < wordRange) :
    (growBack n).run w.bare = shown w .notEnoughSpace (w.growBack? n) := by
  have stop_le := w.stop_le
  by_cases fits : n ≤ w.backLength
  · have inside : ¬ w.buffer.length < w.stop + n := by
      unfold Writer.backLength at fits
      omega
    let grown : Writer :=
      { w with
        stop := w.stop + n
        start_le := Nat.le_add_right_of_le w.start_le
        stop_le := Nat.not_lt.1 inside }
    have made : w.growBack? n = some grown := dif_pos fits
    simp only [growBack, EStateM.run_bind, EStateM.run_get, Writer.bare, run_add small, inside, if_false,
      EStateM.run_set, made, shown]
    exact run_checkMarks grown.valid_bare
  · have outside : w.buffer.length < w.stop + n := by
      unfold Writer.backLength at fits
      omega
    have refused : w.growBack? n = none := dif_neg fits
    simp only [growBack, EStateM.run_bind, EStateM.run_get, Writer.bare, run_add small, outside, if_true,
      refuse, EStateM.run_throw, refused, shown]

/-- The octets are copied before the mark moves, and by then it is known that it can move. -/
theorem append_bare (bytes : Bytes) (small : w.buffer.length < wordRange) :
    (append bytes).run w.bare = shown w .notEnoughSpace (w.append? bytes) := by
  by_cases fits : bytes.length ≤ w.backLength
  · have inside : w.stop + bytes.length ≤ w.buffer.length := by
      have := w.stop_le
      unfold Writer.backLength at fits
      omega
    let filled := w.put w.stop bytes inside
    have made : w.append? bytes = filled.growBack? bytes.length := dif_pos fits
    have room : ¬ w.bare.buffer.length - w.bare.stop < bytes.length := Nat.not_lt.2 fits
    have copied : (fillPart ⟨w.bare.stop, w.bare.buffer.length⟩ 0 bytes.length bytes).run w.bare =
        .ok () filled.bare :=
      run_fillPart w (Nat.zero_le _) fits rfl rfl inside
    have grows := growBack_bare filled (Nat.lt_of_le_of_lt inside small)
    obtain ⟨w', done, _⟩ := Writer.append?_of_le fits
    rw [← made, done] at grows
    simp only [append, EStateM.run_bind, EStateM.run_get, run_sub w.valid_bare.2, room, if_false,
      run_backSpace w.valid_bare, copied, done]
    exact grows
  · have room : w.bare.buffer.length - w.bare.stop < bytes.length := Nat.not_le.1 fits
    have refused : w.append? bytes = none := dif_neg fits
    simp only [append, EStateM.run_bind, EStateM.run_get, run_sub w.valid_bare.2, room, if_true, refuse,
      EStateM.run_throw, refused, shown]

theorem prepend_bare (bytes : Bytes) :
    (prepend bytes).run w.bare = shown w .notEnoughSpace (w.prepend? bytes) := by
  by_cases fits : bytes.length ≤ w.frontLength
  · have inside : w.start - bytes.length + bytes.length ≤ w.buffer.length := by
      have := w.start_le
      have := w.stop_le
      unfold Writer.frontLength at fits
      omega
    let filled := w.put (w.start - bytes.length) bytes inside
    have made : w.prepend? bytes = filled.growFront? bytes.length := dif_pos fits
    have room : ¬ w.bare.start < bytes.length := Nat.not_lt.2 fits
    have copied : (fillPart ⟨0, w.bare.start⟩ (w.bare.start - bytes.length) (w.bare.start - 0) bytes).run
        w.bare = .ok () filled.bare :=
      run_fillPart w (Nat.sub_le ..) (Nat.le_refl _) (Nat.sub_sub_self fits) (Nat.zero_add _) inside
    have grows := growFront_bare filled bytes.length
    obtain ⟨w', done, _⟩ := Writer.prepend?_of_le fits
    rw [← made, done] at grows
    simp only [prepend, EStateM.run_bind, EStateM.run_get, room, if_false, run_sub (Nat.not_lt.1 room),
      run_frontSpace w.valid_bare, copied, done]
    exact grows
  · have room : w.bare.start < bytes.length := Nat.not_le.1 fits
    have refused : w.prepend? bytes = none := dif_neg fits
    simp only [prepend, EStateM.run_bind, EStateM.run_get, room, if_true, refuse, EStateM.run_throw,
      refused, shown]

theorem put_bare {space : Editing Region} {r : Region} {offset place : Nat} {bytes : Bytes}
    (found : space.run w.bare = .ok r w.bare) (inside : offset + bytes.length ≤ r.stop - r.start)
    (there : r.start + offset = place) (fits : place + bytes.length ≤ w.buffer.length) :
    (put space offset bytes).run w.bare = .ok () (w.put place bytes fits).bare := by
  simp only [put, EStateM.run_bind, found]
  exact run_fillPart w (Nat.le_add_right ..) inside (Nat.add_sub_cancel_left ..) there fits

end
end Editing

namespace Parts

/-- The edits that a program may ask for. Whether there is room it need not know, but it may write only
inside a part, and lengths have to be words. -/
def Admits (p : Parts) : Edit → Prop
  | .append _ | .prepend _ | .growFront _ => True
  | .growBack n => p.front.length + p.data.length + n < wordRange
  | .putFront offset bytes => offset + bytes.length ≤ p.front.length
  | .putData offset bytes => offset + bytes.length ≤ p.data.length
  | .putBack offset bytes => offset + bytes.length ≤ p.back.length

/-- Each edit of a list may be asked for when its turn comes. -/
def AdmitsAll (p : Parts) : List Edit → Prop
  | [] => True
  | e :: edits => p.Admits e ∧ AdmitsAll ((p.edit? e).getD p) edits

instance (p : Parts) : (e : Edit) → Decidable (p.Admits e)
  | .append _ | .prepend _ | .growFront _ => instDecidableTrue
  | .growBack _ | .putFront _ _ | .putData _ _ | .putBack _ _ => Nat.decLe _ _

instance decidableAdmitsAll (p : Parts) : (edits : List Edit) → Decidable (p.AdmitsAll edits)
  | [] => instDecidableTrue
  | e :: edits =>
    have := decidableAdmitsAll ((p.edit? e).getD p) edits
    inferInstanceAs (Decidable (p.Admits e ∧ _))

end Parts

namespace Editing
variable (w : Writer)

theorem perform_bare {e : Edit} (small : w.buffer.length < wordRange) (admitted : w.parts.Admits e) :
    (perform e).run w.bare = shown w e.refusal (w.edit? e) := by
  cases e with
  | append bytes => exact append_bare w bytes small
  | prepend bytes => exact prepend_bare w bytes
  | growFront n => exact growFront_bare w n
  | growBack n =>
    apply growBack_bare
    rw [w.stop_eq]
    exact admitted
  | putFront offset bytes =>
    have fits : offset + bytes.length ≤ w.frontLength := w.length_front ▸ admitted
    have made : w.putFront? offset bytes = some _ := dif_pos fits
    simp only [Writer.edit?, made, shown]
    exact put_bare w (run_frontSpace w.valid_bare) fits (Nat.zero_add _) _
  | putData offset bytes =>
    have fits : offset + bytes.length ≤ w.dataLength := w.length_data ▸ admitted
    have made : w.putData? offset bytes = some _ := dif_pos fits
    simp only [Writer.edit?, made, shown]
    exact put_bare w (run_dataSpace w.valid_bare) fits rfl _
  | putBack offset bytes =>
    have fits : offset + bytes.length ≤ w.backLength := w.length_back ▸ admitted
    have made : w.putBack? offset bytes = some _ := dif_pos fits
    simp only [Writer.edit?, made, shown]
    exact put_bare w (run_backSpace w.valid_bare) fits rfl _

/-- A write that leaves its region is a fault, wherever the region is. -/
theorem put_of_misfit {space : Editing Region} {r : Region} {offset : Nat} {bytes : Bytes}
    (found : space.run w.bare = .ok r w.bare) (misfit : ¬ offset + bytes.length ≤ r.stop - r.start) :
    (put space offset bytes).run w.bare = .error (.inl .range) w.bare := by
  have outside : ¬ (offset ≤ offset + bytes.length ∧ offset + bytes.length ≤ r.stop - r.start) :=
    fun fits => misfit fits.2
  simp only [put, fillPart, part, EStateM.run_bind, found, run_require_of_not outside]

/-- The checks are not idle. Each of the edits that may not be asked for comes to a fault. -/
theorem perform_of_unadmitted {e : Edit} (unadmitted : ¬ w.parts.Admits e) :
    ∃ fault, (perform e).run w.bare = .error (.inl fault) w.bare := by
  cases e with
  | append bytes => exact absurd trivial unadmitted
  | prepend bytes => exact absurd trivial unadmitted
  | growFront n => exact absurd trivial unadmitted
  | growBack n =>
    have long : ¬ w.bare.stop + n < wordRange := by
      change ¬ w.stop + n < wordRange
      rw [w.stop_eq]
      exact unadmitted
    refine ⟨.overflow, ?_⟩
    simp only [perform, growBack, add, EStateM.run_bind, EStateM.run_get, run_require_of_not long]
  | putFront offset bytes =>
    have misfit : ¬ offset + bytes.length ≤ w.frontLength := w.length_front ▸ unadmitted
    exact ⟨.range, put_of_misfit w (run_frontSpace w.valid_bare) misfit⟩
  | putData offset bytes =>
    have misfit : ¬ offset + bytes.length ≤ w.dataLength := w.length_data ▸ unadmitted
    exact ⟨.range, put_of_misfit w (run_dataSpace w.valid_bare) misfit⟩
  | putBack offset bytes =>
    have misfit : ¬ offset + bytes.length ≤ w.backLength := w.length_back ▸ unadmitted
    exact ⟨.range, put_of_misfit w (run_backSpace w.valid_bare) misfit⟩

end Editing

/-- Edits one after the other, with the refusals among them. A fault ends the run. -/
def BareWriter.run (w : BareWriter) : List Edit → Except Fault (List (Option EditError) × BareWriter)
  | [] => .ok ([], w)
  | e :: edits =>
    match (Editing.perform e).run w with
    | .ok _ w => (run w edits).map fun r => (none :: r.1, r.2)
    | .error (.inr refusal) w => (run w edits).map fun r => (some refusal :: r.1, r.2)
    | .error (.inl fault) _ => .error fault

namespace Writer

theorem parts_run (w : Writer) (edits : List Edit) : (w.run edits).parts = (w.parts.run edits).2 := by
  induction edits generalizing w with
  | nil => rfl
  | cons e edits ih =>
    have step := w.parts_edit? e
    cases made : w.edit? e with
    | none =>
      rw [made] at step
      simp [run, Parts.run, made, ← step, ih]
    | some w' =>
      rw [made] at step
      simp [run, Parts.run, made, ← step, ih]

theorem run_bare (w : Writer) {edits : List Edit} (small : w.buffer.length < wordRange)
    (admitted : w.parts.AdmitsAll edits) :
    w.bare.run edits = .ok ((w.parts.run edits).1, (w.run edits).bare) := by
  induction edits generalizing w with
  | nil => rfl
  | cons e edits ih =>
    obtain ⟨first, others⟩ := admitted
    have step := w.parts_edit? e
    have performed := Editing.perform_bare w small first
    cases made : w.edit? e with
    | none =>
      rw [made] at step performed
      rw [← step] at others
      simp [BareWriter.run, performed, Editing.shown, Parts.run, ← step, run, made,
        ih w small others, Except.map]
    | some w' =>
      rw [made] at step performed
      rw [← step] at others
      have length := Parts.length_edit? step.symm
      rw [length_parts, length_parts] at length
      simp [BareWriter.run, performed, Editing.shown, Parts.run, ← step, run, made,
        ih w' (length ▸ small) others, Except.map]

end Writer

/-- Where a writer comes from. -/
inductive Origin where
  | new (length headroom : Nat)
  | ofBytes (buffer : Bytes) (start stop : Nat)

namespace Origin

def size : Origin → Nat
  | .new length _ => length
  | .ofBytes buffer _ _ => buffer.length

def Sound : Origin → Prop
  | .new length headroom => headroom ≤ length ∧ length < wordRange
  | .ofBytes buffer start stop => start ≤ stop ∧ stop ≤ buffer.length ∧ buffer.length < wordRange

instance : (o : Origin) → Decidable o.Sound
  | .new _ _ | .ofBytes _ _ _ => inferInstanceAs (Decidable (_ ∧ _))

def writer? : Origin → Option Writer
  | .new length headroom => Writer.new? length headroom
  | .ofBytes buffer start stop => Writer.ofBytes? buffer start stop

def bare : Origin → Except Fault BareWriter
  | .new length headroom => BareWriter.new length headroom
  | .ofBytes buffer start stop => BareWriter.ofBytes buffer start stop

def parts : Origin → Parts
  | .new length headroom => ⟨.replicate headroom 0, [], .replicate (length - headroom) 0⟩
  | .ofBytes buffer start stop =>
    ⟨buffer.take start, (buffer.drop start).take (stop - start), buffer.drop stop⟩

theorem exists_writer {o : Origin} (sound : o.Sound) : ∃ w : Writer, o.writer? = some w ∧
    o.bare = .ok w.bare ∧ w.parts = o.parts ∧ w.buffer.length = o.size ∧ o.size < wordRange := by
  cases o with
  | new length headroom =>
    obtain ⟨inside, small⟩ := sound
    obtain ⟨front, data, back⟩ := Writer.views_zeroed headroom (length - headroom)
    have whole : headroom + (length - headroom) = length := by omega
    refine ⟨.zeroed headroom (length - headroom), if_pos inside, ?_, ?_, ?_, small⟩
    · simp [bare, BareWriter.new, BareWriter.checked, BareWriter.Valid, inside, Writer.bare, Writer.zeroed,
        whole]
    · rw [Writer.parts, front, data, back]
      rfl
    · simp [Writer.zeroed, size, whole]
  | ofBytes buffer start stop =>
    obtain ⟨ordered, inside, small⟩ := sound
    refine ⟨_, dif_pos ⟨ordered, inside⟩, ?_, rfl, rfl, small⟩
    simp [bare, BareWriter.ofBytes, BareWriter.checked, BareWriter.Valid, ordered, inside, Writer.bare]

end Origin

/-- However a writer is made and whatever is done to it, nothing breaks off, and what is seen of it is
what the same edits make of three separate parts, with the same refusals and nothing changed by them. -/
theorem edits_act_on_parts {o : Origin} {edits : List Edit} (sound : o.Sound)
    (admitted : o.parts.AdmitsAll edits) :
    ∃ w w' : Writer, o.writer? = some w ∧ o.bare = .ok w.bare ∧ w.parts = o.parts ∧
      w' = w.run edits ∧ w.bare.run edits = .ok ((o.parts.run edits).1, w'.bare) ∧
      w'.parts = (o.parts.run edits).2 ∧
      w'.frontLength + w'.dataLength + w'.backLength = o.size := by
  obtain ⟨w, made, bare, parts, size, small⟩ := Origin.exists_writer sound
  rw [← parts] at admitted
  have after := w.parts_run edits
  refine ⟨w, w.run edits, made, bare, parts, rfl, ?_, ?_, ?_⟩
  · rw [w.run_bare (size ▸ small) admitted, parts]
  · rw [after, parts]
  · rw [Writer.length_buffer, ← Writer.length_parts, after, Parts.length_run, Writer.length_parts, size]

/-- Edits that fail and later shorter ones that do not, up to a buffer without any space left. -/
def sampleEdits : List Edit :=
  [.prepend [1, 2, 3, 4], .prepend [7], .append [8, 9], .growBack 5, .growFront 1, .putData 1 [6],
    .putFront 0 [5], .append [3], .growFront 1, .append [2]]

theorem edits_sample : ∃ w w' : Writer, Writer.new? 6 3 = some w ∧ w' = w.run sampleEdits ∧
    w.bare.run sampleEdits =
      .ok ([some .notEnoughSpace, none, none, some .notEnoughSpace, none, none, none, none, none,
        some .notEnoughSpace], w'.bare) ∧
    w'.parts = ⟨[], [5, 0, 6, 8, 9, 3], []⟩ := by
  obtain ⟨w, w', made, _, _, run, bare, parts, _⟩ :=
    @edits_act_on_parts (.new 6 3) sampleEdits (by decide) (by decide)
  exact ⟨w, w', made, run, bare, parts⟩

end Srv6Traffic
