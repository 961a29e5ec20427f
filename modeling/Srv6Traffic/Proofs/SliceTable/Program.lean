import Srv6Traffic.Proofs.Packet.Routing
import Srv6Traffic.Proofs.SliceTable.Faults
import Srv6Traffic.Proofs.SliceTable.Past

/-! Programs over slices. Whatever commands a program gives, no check fails, the table obeys the same laws
before every one of them, and no octet of a slice goes missing. -/
namespace Srv6Traffic.SliceTable

/-- What a program may rely on with every command that it gives to a table. -/
structure Lawful (t : SliceTable) : Prop where
  effect : ∀ c, Effect t c (t.step c).2
  isolated : ∀ c i s, t.slots[i]? = some s → c.target? ≠ some i → (t.step c).2.slots[i]? = some s
  shares : ∀ a ∈ t.slots, ∀ b ∈ t.slots, a.sharesBuffer b = true ↔ a.buffer = b.buffer
  copied : ∀ bytes, ∃ s, t.step (.ofBytes bytes) = { t with allocated := t.allocated + 1 }.add s ∧
    s.data = bytes ∧ ∀ r ∈ t.slots, r.sharesBuffer s = false
  created : ∀ bytes start stop, start ≤ stop → stop ≤ bytes.length →
    ∃ s, t.step (.ofWriter bytes start stop) = { t with allocated := t.allocated + 1 }.add s ∧
      s.data = (bytes.drop start).take (stop - start) ∧ ∀ r ∈ t.slots, r.sharesBuffer s = false
  built : ∀ i buffer start stop, t.buffers[i]? = some buffer →
    (start ≤ stop ∧ stop ≤ buffer.writer.dataLength →
      ∃ s, t.step (.window i start stop) = t.add s ∧ s.buffer = buffer ∧
        s.data = (buffer.writer.data.drop start).take (stop - start)) ∧
    (¬ (start ≤ stop ∧ stop ≤ buffer.writer.dataLength) →
      t.step (.window i start stop) = (.error .outOfRange, t))
  popped : ∀ i s n, t.slots[i]? = some s →
    (n ≤ s.length →
      ∃ front rest, t.step (.popFront i n) = { t with slots := t.slots.set i rest }.add front ∧
        front.data = s.data.take n ∧ rest.data = s.data.drop n ∧
        front.buffer = s.buffer ∧ rest.buffer = s.buffer) ∧
    (¬ n ≤ s.length → t.step (.popFront i n) = (.error .outOfRange, t))
  cloned : ∀ i s, t.slots[i]? = some s → t.step (.clone i) = t.add s
  routed : ∀ i s h t', t.slots[i]? = some s → t.step (.decodeRouting i) = (.ok (.routing h), t') →
    ∃ rest, t' = { t with slots := t.slots.set i rest } ∧ s.data = h.encode ++ rest.data ∧
      rest.buffer = s.buffer
  decoded : ∀ i s p t', t.slots[i]? = some s → t.step (.decodePacket i) = (.ok (.packet p), t') →
    ∃ rest, t' = { t with slots := t.slots.set i rest ++ [p.payload] } ∧ rest.data = [] ∧
      p.headers.Frames p.payload.data s.data ∧ p.payload.buffer = s.buffer

section
variable {t : SliceTable} {i : Nat} {s : Slice}

theorem apart_of_fresh (numbered : Numbered t) (w : Writer) :
    ∀ r ∈ t.slots, r.sharesBuffer (.whole ⟨t.allocated, w⟩) = false := by
  intro r there
  have older := numbered.below r.buffer (List.mem_append_left _ (List.mem_map_of_mem there))
  exact beq_false_of_ne (Nat.ne_of_lt older)

theorem step_ofBytes (numbered : Numbered t) (bytes : Bytes) :
    ∃ s, t.step (.ofBytes bytes) = { t with allocated := t.allocated + 1 }.add s ∧
      s.data = bytes ∧ ∀ r ∈ t.slots, r.sharesBuffer s = false :=
  ⟨.ofBytes t.allocated bytes, rfl, Slice.data_ofBytes _ _, apart_of_fresh numbered _⟩

theorem step_ofWriter (numbered : Numbered t) {bytes : Bytes} {start stop : Nat} (ordered : start ≤ stop)
    (inside : stop ≤ bytes.length) :
    ∃ s, t.step (.ofWriter bytes start stop) = { t with allocated := t.allocated + 1 }.add s ∧
      s.data = (bytes.drop start).take (stop - start) ∧ ∀ r ∈ t.slots, r.sharesBuffer s = false := by
  have made : Writer.ofBytes? bytes start stop = some ⟨bytes, start, stop, ordered, inside⟩ :=
    dif_pos ⟨ordered, inside⟩
  refine ⟨.whole ⟨t.allocated, ⟨bytes, start, stop, ordered, inside⟩⟩, ?_, Slice.data_whole _, ?_⟩
  · simp only [step, made, allocate]
  · exact apart_of_fresh numbered _

theorem step_window {buffer : SharedBuffer} (found : t.buffers[i]? = some buffer) (start stop : Nat) :
    (start ≤ stop ∧ stop ≤ buffer.writer.dataLength →
      ∃ s, t.step (.window i start stop) = t.add s ∧ s.buffer = buffer ∧
        s.data = (buffer.writer.data.drop start).take (stop - start)) ∧
    (¬ (start ≤ stop ∧ stop ≤ buffer.writer.dataLength) →
      t.step (.window i start stop) = (.error .outOfRange, t)) := by
  constructor
  · intro fits
    obtain ⟨s, made, same, data⟩ := Slice.window?_of_fits fits
    exact ⟨s, by simp only [step, found, made], same, data⟩
  · intro misfit
    have refused : Slice.window? buffer start stop = none := dif_neg misfit
    simp only [step, found, refused]

theorem step_popFront (there : t.slots[i]? = some s) (n : Nat) :
    (n ≤ s.length →
      ∃ front rest, t.step (.popFront i n) = { t with slots := t.slots.set i rest }.add front ∧
        front.data = s.data.take n ∧ rest.data = s.data.drop n ∧
        front.buffer = s.buffer ∧ rest.buffer = s.buffer) ∧
    (¬ n ≤ s.length → t.step (.popFront i n) = (.error .outOfRange, t)) := by
  constructor
  · intro fits
    obtain ⟨front, rest, popped, views⟩ := Slice.popFront?_of_le fits
    exact ⟨front, rest, by simp only [step, there, popped], views⟩
  · intro long
    cases popped : s.popFront? n with
    | none => simp only [step, there, popped]
    | some pair => exact absurd (Slice.popFront?_eq_some popped).1 long

theorem step_decodeRouting {h : Header.SegmentRouting} {t' : SliceTable} (there : t.slots[i]? = some s)
    (stepped : t.step (.decodeRouting i) = (.ok (.routing h), t')) :
    ∃ rest, t' = { t with slots := t.slots.set i rest } ∧ s.data = h.encode ++ rest.data ∧
      rest.buffer = s.buffer := by
  cases done : Decoder.routing s with
  | error field rest => simp [step, decode, there, done] at stepped
  | ok h' rest =>
    simp only [step, decode, there, done, Prod.mk.injEq, Except.ok.injEq, Answer.routing.injEq] at stepped
    obtain ⟨rfl, rfl⟩ := stepped
    exact ⟨rest, rfl, Decoder.front_of_routing done⟩

theorem step_decodePacket {p : Packet} {t' : SliceTable} (there : t.slots[i]? = some s)
    (stepped : t.step (.decodePacket i) = (.ok (.packet p), t')) :
    ∃ rest, t' = { t with slots := t.slots.set i rest ++ [p.payload] } ∧ rest.data = [] ∧
      p.headers.Frames p.payload.data s.data ∧ p.payload.buffer = s.buffer := by
  cases done : Packet.decode s with
  | error field rest => simp [step, decode, there, done] at stepped
  | ok q rest =>
    simp only [step, decode, there, done, Prod.mk.injEq, Except.ok.injEq, Answer.packet.injEq] at stepped
    obtain ⟨rfl, rfl⟩ := stepped
    obtain ⟨frames, nothing, same⟩ := Packet.frames_of_decode done
    exact ⟨rest, rfl, nothing, frames, same⟩

end

theorem Numbered.lawful {t : SliceTable} (numbered : Numbered t) : Lawful t where
  effect := t.effect
  isolated c _ _ there other := (t.effect c).isolated there other
  shares _ there _ there' := numbered.sharesBuffer_iff there there'
  copied := step_ofBytes numbered
  created _ _ _ ordered inside := step_ofWriter numbered ordered inside
  built _ _ start stop found := step_window found start stop
  popped _ _ n there := step_popFront there n
  cloned _ _ there := by simp only [step, there]
  routed _ _ _ _ there stepped := step_decodeRouting there stepped
  decoded _ _ _ _ there stepped := step_decodePacket there stepped

/-- Nothing breaks off in a program over slices, and its answers are those of the table. Each slice can be
looked through at any time, and with the pieces taken off it so far, in the order in which they were taken,
it still is what it was made as. -/
theorem programs_lose_nothing {commands : List Command} (sound : SoundAll {} commands) :
    BareTable.run {} commands = .ok (run {} commands).bare ∧
      (∀ c, (run {} commands).Sound c → (Handling.perform c).run (run {} commands).bare =
        Handling.shown Answer.bare ((run {} commands).step c)) ∧
      (∀ s ∈ (run {} commands).slots, ∀ t, (Handling.data s.bare).run t = .ok s.data t) ∧
      (run {} commands).Lawful ∧
      Lossless (pasts {} [] commands) (run {} commands).slots :=
  ⟨run_bare {} sound, fun _ sound => Handling.perform_bare _ sound, fun s _ => Handling.run_data s,
    (Numbered.empty.run commands).lawful, Lossless.run (t := {}) .empty commands⟩

/-- A header is decoded off a slice of which there is a clone, then there are pops of which one goes too far.
The decoder of packets stops behind the first header, and of two windows on one buffer one leaves it. -/
def sampleProgram : List Command :=
  [.ofWriter ([9, 9, 17, 2, 4, 0, 0, 7, 1, 2] ++ .replicate 16 1 ++ [5, 6, 7, 9]) 2 29, .clone 0,
    .decodeRouting 0, .popFront 0 2, .popFront 0 5, .ofBytes (.replicate 20 0), .decodePacket 3,
    .share [1, 2, 3, 4] 1 3, .window 0 1 2, .window 0 1 3]

theorem program_loses_nothing : BareTable.run {} sampleProgram = .ok (run {} sampleProgram).bare ∧
    (run {} sampleProgram).slots.map Slice.data =
      [[7], [17, 2, 4, 0, 0, 7, 1, 2] ++ .replicate 16 1 ++ [5, 6, 7], [5, 6], .replicate 6 0, [3]] ∧
    ∃ p s, (pasts {} [] sampleProgram)[0]? = some p ∧ (run {} sampleProgram).slots[0]? = some s ∧
      p.removed = [[17, 2, 4, 0, 0, 7, 1, 2] ++ .replicate 16 1, [5, 6]] ∧ p.Accounts s := by
  obtain ⟨safe, _, _, _, lossless⟩ := @programs_lose_nothing sampleProgram (by decide)
  refine ⟨safe, by decide, _, _, rfl, rfl, by decide, ?_⟩
  exact lossless.accounts 0 _ _ rfl rfl

end Srv6Traffic.SliceTable
