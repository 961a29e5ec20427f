import Srv6Traffic.Proofs.Buffer.Faults
import Srv6Traffic.Proofs.Packet.Traps
import Srv6Traffic.Proofs.SliceTable.Effect

/-! Tables without guarantees. The slices of a table are in order by their type. Here they are bare marks,
which are checked wherever a slice is made, moved or looked through, and the decoders are those that trap.
As long as a program gives marks that are in order and lengths that are words, no check fails. Command by
command a bare table does what the table does. -/
namespace Srv6Traffic
open SliceTable (Command Refusal Answer)

/-- Why a command can break off, by itself or in a decoder. -/
abbrev Breach := Fault ⊕ Trap

structure BareTable where
  slots : List BareSlice := []
  buffers : List SharedBuffer := []
  allocated : Nat := 0

inductive BareAnswer where
  | added (slot : Nat)
  | shared
  | compared (equal shares : Bool)
  | routing (header : Header.SegmentRouting)
  | packet (headers : Headers) (payload : BareSlice)

namespace SliceTable

def bare (t : SliceTable) : BareTable := ⟨t.slots.map Slice.bare, t.buffers, t.allocated⟩

def Answer.bare : Answer → BareAnswer
  | .added slot => .added slot
  | .shared => .shared
  | .compared equal shares => .compared equal shares
  | .routing header => .routing header
  | .packet p => .packet p.headers p.payload.bare

/-- The commands that a program may give: buffers come with marks that are in order, and what is popped
ends at a word. -/
def Sound (t : SliceTable) : Command → Prop
  | .ofWriter bytes start stop | .share bytes start stop => start ≤ stop ∧ stop ≤ bytes.length
  | .popFront slot n => ∀ s ∈ t.slots[slot]?, s.start + n < wordRange
  | _ => True

def SoundAll (t : SliceTable) : List Command → Prop
  | [] => True
  | c :: commands => t.Sound c ∧ SoundAll (t.step c).2 commands

instance (t : SliceTable) : (c : Command) → Decidable (t.Sound c)
  | .ofWriter _ _ _ | .share _ _ _ => inferInstanceAs (Decidable (_ ∧ _))
  | .popFront _ _ => inferInstanceAs (Decidable (∀ _ ∈ _, _ < _))
  | .ofBytes _ | .window _ _ _ | .clone _ | .compare _ _ | .decodeRouting _ | .decodePacket _ =>
    instDecidableTrue

instance decidableSoundAll (t : SliceTable) : (commands : List Command) → Decidable (t.SoundAll commands)
  | [] => instDecidableTrue
  | c :: commands =>
    have := decidableSoundAll (t.step c).2 commands
    inferInstanceAs (Decidable (t.Sound c ∧ _))

end SliceTable

abbrev Handling := EStateM (Breach ⊕ Refusal) BareTable

namespace Handling
variable {α β : Type}

def refuse (refusal : Refusal) : Handling α := throw (.inr refusal)

def checked (s : BareSlice) : Handling BareSlice := do
  require (.inl (.inl .invariant)) s.Valid
  return s

def writer (bytes : Bytes) (start stop : Nat) : Handling Writer :=
  match Writer.ofBytes? bytes start stop with
  | some w => return w
  | none => throw (.inl (.inl .invariant))

def allocate (w : Writer) : Handling SharedBuffer := do
  let t ← get
  set { t with allocated := t.allocated + 1 }
  return ⟨t.allocated, w⟩

def slot (i : Nat) : Handling BareSlice := do
  let t ← get
  match t.slots[i]? with
  | some s => return s
  | none => refuse .noSuchSlot

def buffer (i : Nat) : Handling SharedBuffer := do
  let t ← get
  match t.buffers[i]? with
  | some buffer => return buffer
  | none => refuse .noSuchSlot

def put (i : Nat) (s : BareSlice) : Handling Unit :=
  modify fun t => { t with slots := t.slots.set i s }

def add (s : BareSlice) : Handling BareAnswer := do
  let t ← get
  set { t with slots := t.slots ++ [s] }
  return .added t.slots.length

def ofWriter (w : Writer) : Handling BareSlice := do
  let buffer ← allocate w
  checked ⟨buffer, 0, w.dataLength⟩

def build (buffer : SharedBuffer) (start stop : Nat) : Handling BareSlice :=
  if ¬ start ≤ stop then refuse .outOfRange
  else if ¬ stop ≤ buffer.writer.dataLength then refuse .outOfRange
  else checked ⟨buffer, start, stop⟩

/-- The mark of the slice is moved when the front has been made, and checked again. -/
def popFront (i n : Nat) : Handling BareSlice := do
  let s ← slot i
  require (.inl (.inl .overflow)) (s.start + n < wordRange)
  if ¬ s.start + n ≤ s.stop then refuse .outOfRange
  else do
    let front ← build s.buffer s.start (s.start + n)
    let rest ← checked { s with start := s.start + n }
    put i rest
    return front

def data (s : BareSlice) : Handling Bytes := do
  require (.inl (.inr .index)) s.Valid
  return s.view

/-- A decoder that fails has moved the slice as far as it could be read. -/
def decode (i : Nat) (decoder : TrappingDecoder α) : Handling α := do
  let s ← slot i
  match decoder s with
  | .ok a s => do
    put i s
    return a
  | .error (.inr field) s => do
    put i s
    refuse (.undecodable field)
  | .error (.inl trap) _ => throw (.inl (.inr trap))

def perform : Command → Handling BareAnswer
  | .ofBytes bytes => do
    let w ← writer bytes 0 bytes.length
    let s ← ofWriter w
    add s
  | .ofWriter bytes start stop => do
    let w ← writer bytes start stop
    let s ← ofWriter w
    add s
  | .share bytes start stop => do
    let w ← writer bytes start stop
    let buffer ← allocate w
    modify fun t => { t with buffers := t.buffers ++ [buffer] }
    return .shared
  | .window i start stop => do
    let buffer ← buffer i
    let s ← build buffer start stop
    add s
  | .popFront i n => do
    let front ← popFront i n
    add front
  | .clone i => do
    let s ← slot i
    add s
  | .compare i j => do
    let a ← slot i
    let b ← slot j
    let left ← data a
    let right ← data b
    return .compared (left == right) (a.buffer.serial == b.buffer.serial)
  | .decodeRouting i => do
    let header ← decode i TrappingDecoder.routing
    return .routing header
  | .decodePacket i => do
    let (headers, payload) ← decode i TrappingDecoder.packet
    modify fun t => { t with slots := t.slots ++ [payload] }
    return .packet headers payload

/-- What a command comes to on the bare table. -/
def shown (f : α → β) : Except Refusal α × SliceTable → EStateM.Result (Breach ⊕ Refusal) BareTable β
  | (.ok a, t) => .ok (f a) t.bare
  | (.error refusal, t) => .error (.inr refusal) t.bare

section
variable {t : SliceTable} {s : Slice} {i : Nat}

theorem run_refuse (refusal : Refusal) (t : BareTable) :
    (refuse refusal : Handling α).run t = .error (.inr refusal) t := rfl

theorem run_checked {s : BareSlice} (valid : s.Valid) (t : BareTable) : (checked s).run t = .ok s t := by
  simp only [checked, EStateM.run_bind, run_require valid, EStateM.run_pure]

theorem run_data (s : Slice) (t : BareTable) : (data s.bare).run t = .ok s.data t := by
  simp only [data, EStateM.run_bind, run_require s.valid_bare, EStateM.run_pure, s.view_bare]

theorem run_writer {bytes : Bytes} {start stop : Nat} {w : Writer}
    (made : Writer.ofBytes? bytes start stop = some w) (t : BareTable) :
    (writer bytes start stop).run t = .ok w t := by
  simp only [writer, made, EStateM.run_pure]

theorem slot_of_some (there : t.slots[i]? = some s) : (slot i).run t.bare = .ok s.bare t.bare := by
  have there' : t.bare.slots[i]? = some s.bare := by simp [SliceTable.bare, there]
  simp only [slot, EStateM.run_bind, EStateM.run_get, there', EStateM.run_pure]

theorem slot_of_none (missing : t.slots[i]? = none) :
    (slot i).run t.bare = .error (.inr .noSuchSlot) t.bare := by
  have missing' : t.bare.slots[i]? = none := by simpa [SliceTable.bare] using missing
  simp only [slot, EStateM.run_bind, EStateM.run_get, missing', run_refuse]

theorem buffer_of_some {shared : SharedBuffer} (found : t.buffers[i]? = some shared) :
    (buffer i).run t.bare = .ok shared t.bare := by
  have found' : t.bare.buffers[i]? = some shared := found
  simp only [buffer, EStateM.run_bind, EStateM.run_get, found', EStateM.run_pure]

theorem buffer_of_none (missing : t.buffers[i]? = none) :
    (buffer i).run t.bare = .error (.inr .noSuchSlot) t.bare := by
  have missing' : t.bare.buffers[i]? = none := missing
  simp only [buffer, EStateM.run_bind, EStateM.run_get, missing', run_refuse]

theorem add_bare (t : SliceTable) (s : Slice) : (add s.bare).run t.bare = shown Answer.bare (t.add s) := by
  simp only [add, EStateM.run_bind, EStateM.run_get, EStateM.run_set, EStateM.run_pure]
  simp [SliceTable.bare, SliceTable.add, shown, Answer.bare]

theorem put_bare (t : SliceTable) (i : Nat) (s : Slice) :
    (put i s.bare).run t.bare = .ok () { t with slots := t.slots.set i s }.bare := by
  simp only [put, EStateM.run_modify, SliceTable.bare, List.map_set]

theorem allocate_bare (t : SliceTable) (w : Writer) :
    (allocate w).run t.bare = .ok (t.allocate w).1 (t.allocate w).2.bare := rfl

theorem ofWriter_bare (t : SliceTable) (w : Writer) :
    (ofWriter w).run t.bare = .ok (Slice.whole (t.allocate w).1).bare (t.allocate w).2.bare := by
  simp only [ofWriter, EStateM.run_bind, allocate_bare]
  exact run_checked (Slice.whole (t.allocate w).1).valid_bare _

/-- A slice that is built from marks in order never fails the check that comes after. -/
theorem build_bare (t : SliceTable) (buffer : SharedBuffer) (start stop : Nat) :
    (build buffer start stop).run t.bare = match Slice.window? buffer start stop with
      | some s => .ok s.bare t.bare
      | none => .error (.inr .outOfRange) t.bare := by
  by_cases ordered : start ≤ stop
  · by_cases inside : stop ≤ buffer.writer.dataLength
    · have made : Slice.window? buffer start stop = some _ := dif_pos ⟨ordered, inside⟩
      simp only [build, ordered, inside, not_true, if_false, made]
      exact run_checked ⟨ordered, inside⟩ _
    · have refused : Slice.window? buffer start stop = none := dif_neg fun fits => inside fits.2
      simp only [build, ordered, inside, not_true, not_false_iff, if_false, if_true, refused,
        run_refuse]
  · have refused : Slice.window? buffer start stop = none := dif_neg fun fits => ordered fits.1
    simp only [build, ordered, not_false_iff, if_true, refused, run_refuse]

/-- What is left of a slice is in order as the front is, so the mark can be moved. -/
theorem popFront_of_some {front rest : Slice} {n : Nat} (there : t.slots[i]? = some s)
    (small : s.start + n < wordRange) (popped : s.popFront? n = some (front, rest)) :
    (popFront i n).run t.bare = .ok front.bare { t with slots := t.slots.set i rest }.bare := by
  unfold Slice.popFront? at popped
  split at popped
  next fits =>
    cases popped
    let rest : Slice := { s with start := s.start + n, start_le := fits }
    have inside : s.bare.start + n ≤ s.bare.stop := fits
    have word : s.bare.start + n < wordRange := small
    have made : Slice.window? s.bare.buffer s.bare.start (s.bare.start + n) = some _ :=
      dif_pos ⟨Nat.le_add_right _ _, Nat.le_trans fits s.stop_le⟩
    have moved : BareSlice.Valid { s.bare with start := s.bare.start + n } := rest.valid_bare
    have left : (put i { s.bare with start := s.bare.start + n }).run t.bare =
        .ok () { t with slots := t.slots.set i rest }.bare := put_bare t i rest
    simp only [popFront, EStateM.run_bind, slot_of_some there, run_require word, inside, not_true, if_false,
      build_bare, made, run_checked moved, left, EStateM.run_pure]
    rfl
  next => cases popped

theorem popFront_of_none {n : Nat} (there : t.slots[i]? = some s)
    (small : s.start + n < wordRange) (refused : s.popFront? n = none) :
    (popFront i n).run t.bare = .error (.inr .outOfRange) t.bare := by
  unfold Slice.popFront? at refused
  split at refused
  next => cases refused
  next misfit =>
    have word : s.bare.start + n < wordRange := small
    have outside : ¬ s.bare.start + n ≤ s.bare.stop := misfit
    simp only [popFront, EStateM.run_bind, slot_of_some there, run_require word, outside, not_false_iff,
      if_true, run_refuse]

theorem decode_bare {d : TrappingDecoder β} {d' : Decoder α} {f : α → β}
    (follows : TrappingDecoder.Follows d d' f) (t : SliceTable) (i : Nat) :
    (decode i d).run t.bare = shown f (t.decode i d') := by
  cases there : t.slots[i]? with
  | none =>
    simp only [decode, EStateM.run_bind, slot_of_none there, SliceTable.decode, there, shown]
  | some s =>
    have same := follows s
    cases done : d' s with
    | ok a s' =>
      rw [done] at same
      simp only [decode, EStateM.run_bind, slot_of_some there, same, TrappingDecoder.shown, put_bare,
        EStateM.run_pure, SliceTable.decode, there, done, shown]
    | error field s' =>
      rw [done] at same
      simp only [decode, EStateM.run_bind, slot_of_some there, same, TrappingDecoder.shown, put_bare,
        run_refuse, SliceTable.decode, there, done, shown]

end

theorem perform_bare (t : SliceTable) {c : Command} (sound : t.Sound c) :
    (perform c).run t.bare = shown Answer.bare (t.step c) := by
  cases c with
  | ofBytes bytes =>
    have made : Writer.ofBytes? bytes 0 bytes.length = some (.full bytes) :=
      dif_pos ⟨Nat.zero_le _, Nat.le_refl _⟩
    simp only [perform, EStateM.run_bind, run_writer made, ofWriter_bare, add_bare, SliceTable.step]
  | ofWriter bytes start stop =>
    have made : Writer.ofBytes? bytes start stop = some _ := dif_pos sound
    simp only [perform, EStateM.run_bind, run_writer made, ofWriter_bare, add_bare, SliceTable.step, made]
  | share bytes start stop =>
    have made : Writer.ofBytes? bytes start stop = some _ := dif_pos sound
    simp only [perform, EStateM.run_bind, run_writer made, allocate_bare, EStateM.run_modify, EStateM.run_pure,
      SliceTable.step, made, shown, Answer.bare]
    rfl
  | window i start stop =>
    cases found : t.buffers[i]? with
    | none => simp only [perform, EStateM.run_bind, buffer_of_none found, SliceTable.step, found, shown]
    | some shared =>
      cases made : Slice.window? shared start stop with
      | none =>
        simp only [perform, EStateM.run_bind, buffer_of_some found, build_bare, made, SliceTable.step, found,
          shown]
      | some s =>
        simp only [perform, EStateM.run_bind, buffer_of_some found, build_bare, made, add_bare,
          SliceTable.step, found]
  | popFront i n =>
    cases there : t.slots[i]? with
    | none => simp only [perform, popFront, EStateM.run_bind, slot_of_none there, SliceTable.step, there, shown]
    | some s =>
      have small : s.start + n < wordRange := sound s there
      cases popped : s.popFront? n with
      | none =>
        simp only [perform, EStateM.run_bind, popFront_of_none there small popped, SliceTable.step, there,
          popped, shown]
      | some pair =>
        simp only [perform, EStateM.run_bind, popFront_of_some there small popped, add_bare, SliceTable.step,
          there, popped]
  | clone i =>
    cases there : t.slots[i]? with
    | none => simp only [perform, EStateM.run_bind, slot_of_none there, SliceTable.step, there, shown]
    | some s => simp only [perform, EStateM.run_bind, slot_of_some there, add_bare, SliceTable.step, there]
  | compare i j =>
    cases there : t.slots[i]? with
    | none => simp only [perform, EStateM.run_bind, slot_of_none there, SliceTable.step, there, shown]
    | some a =>
      cases there' : t.slots[j]? with
      | none =>
        simp only [perform, EStateM.run_bind, slot_of_some there, slot_of_none there', SliceTable.step, there,
          there', shown]
      | some b =>
        simp only [perform, EStateM.run_bind, slot_of_some there, slot_of_some there', run_data,
          EStateM.run_pure, SliceTable.step, there, there', shown]
        rfl
  | decodeRouting i =>
    have same := decode_bare TrappingDecoder.follows_routing t i
    simp only [perform, EStateM.run_bind, same, SliceTable.step]
    cases t.decode i Decoder.routing with
    | mk result t' => cases result <;> rfl
  | decodePacket i =>
    have same := decode_bare TrappingDecoder.follows_packet t i
    simp only [perform, EStateM.run_bind, same, SliceTable.step]
    cases t.decode i Packet.decode with
    | mk result t' =>
      cases result with
      | error refusal => rfl
      | ok p =>
        have added : t'.bare.slots ++ [p.payload.bare] = (t'.slots ++ [p.payload]).map Slice.bare := by
          simp [SliceTable.bare]
        simp only [shown, TrappingDecoder.parts, EStateM.run_modify, EStateM.run_pure, added]
        rfl

/-- The checks are not idle. A command that may not be given breaks off. -/
theorem perform_of_unsound (t : SliceTable) {c : Command} (unsound : ¬ t.Sound c) :
    ∃ breach, (perform c).run t.bare = .error (.inl breach) t.bare := by
  cases c with
  | ofBytes bytes => exact absurd trivial unsound
  | ofWriter bytes start stop =>
    have refused : Writer.ofBytes? bytes start stop = none := dif_neg unsound
    refine ⟨.inl .invariant, ?_⟩
    simp only [perform, EStateM.run_bind, writer, refused]
    rfl
  | share bytes start stop =>
    have refused : Writer.ofBytes? bytes start stop = none := dif_neg unsound
    refine ⟨.inl .invariant, ?_⟩
    simp only [perform, EStateM.run_bind, writer, refused]
    rfl
  | window i start stop => exact absurd trivial unsound
  | popFront i n =>
    cases there : t.slots[i]? with
    | none => exact absurd (fun s found => by simp [there] at found) unsound
    | some s =>
      have long : ¬ s.bare.start + n < wordRange := fun small =>
        unsound fun r found => by
          rw [there] at found
          cases found
          exact small
      refine ⟨.inl .overflow, ?_⟩
      simp only [perform, popFront, EStateM.run_bind, slot_of_some there, run_require_of_not long]
  | clone i => exact absurd trivial unsound
  | compare i j => exact absurd trivial unsound
  | decodeRouting i => exact absurd trivial unsound
  | decodePacket i => exact absurd trivial unsound

end Handling

/-- One command after the other, refused or not. A breach ends the run. -/
def BareTable.run (t : BareTable) : List Command → Except Breach BareTable
  | [] => .ok t
  | c :: commands =>
    match (Handling.perform c).run t with
    | .ok _ t => run t commands
    | .error (.inr _) t => run t commands
    | .error (.inl breach) _ => .error breach

theorem SliceTable.run_bare (t : SliceTable) {commands : List Command} (sound : t.SoundAll commands) :
    t.bare.run commands = .ok (t.run commands).bare := by
  induction commands generalizing t with
  | nil => rfl
  | cons c commands ih =>
    obtain ⟨first, others⟩ := sound
    have performed := Handling.perform_bare t first
    have later := ih (t.step c).2 others
    cases stepped : t.step c with
    | mk result t' =>
      rw [stepped] at performed later
      cases result <;> simp [BareTable.run, performed, Handling.shown, run, stepped, later]

end Srv6Traffic
