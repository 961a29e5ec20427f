import Srv6Traffic.Proofs.Packet.Advance
import Srv6Traffic.SliceTable

/-! What a command can do to a table. It takes pieces off the slice of one slot at most, and slices that
are new show what is there already or come with a buffer of their own. All that is kept from one command to
the next follows from this. -/
namespace Srv6Traffic.SliceTable
open Slice (shown)

/-- The slot that a command may take octets from. -/
def Command.target? : Command → Option Nat
  | .popFront slot _ | .decodeRouting slot | .decodePacket slot => some slot
  | _ => none

/-- What a command takes off, and of which slot: the slice that is popped, or what a decoder has gone over. -/
def removal? (t : SliceTable) : Command → Option (Nat × Bytes)
  | .popFront slot n => do
    let s ← t.slots[slot]?
    let (front, _) ← s.popFront? n
    return (slot, front.data)
  | .decodeRouting slot => do
    let s ← t.slots[slot]?
    return (slot, s.lost (Decoder.left (Decoder.routing s)))
  | .decodePacket slot => do
    let s ← t.slots[slot]?
    return (slot, s.lost (Decoder.left (Packet.decode s)))
  | _ => none

/-- The buffers that slices can be made of. -/
def known (t : SliceTable) : List SharedBuffer := t.slots.map Slice.buffer ++ t.buffers

/-- All that a command can do to a table. -/
inductive Effect (t : SliceTable) (c : Command) : SliceTable → Prop
  | nothing (still : t.removal? c = none) : Effect t c t
  | created (w : Writer) (still : t.removal? c = none) :
    Effect t c ⟨t.slots ++ [.whole ⟨t.allocated, w⟩], t.buffers, t.allocated + 1⟩
  | shared (w : Writer) (still : t.removal? c = none) :
    Effect t c ⟨t.slots, t.buffers ++ [⟨t.allocated, w⟩], t.allocated + 1⟩
  | viewed (s : Slice) (seen : s.buffer ∈ t.known) (still : t.removal? c = none) :
    Effect t c { t with slots := t.slots ++ [s] }
  | taken {slot : Nat} {s s' : Slice} {pieces new : List Slice} (target : c.target? = some slot)
    (there : t.slots[slot]? = some s) (pops : s.Pops pieces s')
    (removal : t.removal? c = some (slot, shown pieces)) (alike : ∀ n ∈ new, n.buffer = s.buffer) :
    Effect t c { t with slots := t.slots.set slot s' ++ new }

section
variable {t : SliceTable} {c : Command} {slot : Nat} {s : Slice}

theorem buffer_mem_known (there : t.slots[slot]? = some s) : s.buffer ∈ t.known :=
  List.mem_append_left _ (List.mem_map_of_mem (List.mem_of_getElem? there))

theorem effect_of_missing (target : c.target? = some slot) (missing : t.slots[slot]? = none) :
    Effect t c (t.step c).2 := by
  cases c <;> cases target <;> simp only [step, decode, missing] <;>
    exact .nothing (by simp [removal?, missing])

/-- A decoder that takes pieces off a slice leaves its slot with the rest. -/
theorem effect_of_decoder {α : Type} {d : Decoder α} {new : List Slice} (target : c.target? = some slot)
    (there : t.slots[slot]? = some s) (takes : d.TakesPieces)
    (removal : t.removal? c = some (slot, s.lost (Decoder.left (d s))))
    (alike : ∀ n ∈ new, n.buffer = s.buffer)
    (stepped : (t.step c).2 = { t with slots := t.slots.set slot (Decoder.left (d s)) ++ new }) :
    Effect t c (t.step c).2 := by
  obtain ⟨pieces, pops⟩ := takes s
  rw [pops.lost_eq] at removal
  rw [stepped]
  exact .taken target there pops removal alike

theorem effect_popFront (there : t.slots[slot]? = some s) (n : Nat) :
    Effect t (.popFront slot n) (t.step (.popFront slot n)).2 := by
  cases popped : s.popFront? n with
  | none =>
    simp only [step, there, popped]
    exact .nothing (by simp [removal?, there, popped])
  | some pair =>
    have alike : ∀ n ∈ [pair.1], n.buffer = s.buffer := fun _ => (Slice.Pops.single popped).buffer_of_mem
    simp only [step, there, popped, add]
    exact .taken rfl there (.single popped) (by simp [removal?, there, popped, shown]) alike

theorem effect_decodeRouting (there : t.slots[slot]? = some s) :
    Effect t (.decodeRouting slot) (t.step (.decodeRouting slot)).2 := by
  have alike : ∀ n ∈ ([] : List Slice), n.buffer = s.buffer := nofun
  refine effect_of_decoder rfl there Decoder.takesPieces_routing ?_ alike ?_
  · simp [removal?, there]
  · cases done : Decoder.routing s <;> simp [step, decode, there, done, Decoder.left]

theorem effect_decodePacket (there : t.slots[slot]? = some s) :
    Effect t (.decodePacket slot) (t.step (.decodePacket slot)).2 := by
  have removal : t.removal? (.decodePacket slot) = some (slot, s.lost (Decoder.left (Packet.decode s))) := by
    simp [removal?, there]
  cases done : Packet.decode s with
  | error field s' =>
    have alike : ∀ n ∈ ([] : List Slice), n.buffer = s.buffer := nofun
    refine effect_of_decoder rfl there Packet.decode_takesPieces removal alike ?_
    simp [step, decode, there, done, Decoder.left]
  | ok p s' =>
    have alike : ∀ n ∈ [p.payload], n.buffer = s.buffer := by
      simpa using (Packet.frames_of_decode done).2.2
    refine effect_of_decoder rfl there Packet.decode_takesPieces removal alike ?_
    simp [step, decode, there, done, Decoder.left]

end

theorem effect (t : SliceTable) (c : Command) : Effect t c (t.step c).2 := by
  cases c with
  | ofBytes bytes => exact .created (.full bytes) rfl
  | ofWriter bytes start stop =>
    cases made : Writer.ofBytes? bytes start stop with
    | none => simpa only [step, made] using Effect.nothing rfl
    | some w => simpa only [step, made, add, allocate] using Effect.created w rfl
  | share bytes start stop =>
    cases made : Writer.ofBytes? bytes start stop with
    | none => simpa only [step, made] using Effect.nothing rfl
    | some w => simpa only [step, made, allocate] using Effect.shared w rfl
  | window buffer start stop =>
    cases found : t.buffers[buffer]? with
    | none => simpa only [step, found] using Effect.nothing rfl
    | some shared =>
      by_cases fits : start ≤ stop ∧ stop ≤ shared.writer.dataLength
      · obtain ⟨s, made, same, _⟩ := Slice.window?_of_fits fits
        have seen : s.buffer ∈ t.known := same ▸ List.mem_append_right _ (List.mem_of_getElem? found)
        simpa only [step, found, made, add] using Effect.viewed s seen rfl
      · have refused : Slice.window? shared start stop = none := dif_neg fits
        simpa only [step, found, refused] using Effect.nothing rfl
  | popFront slot n =>
    cases there : t.slots[slot]? with
    | none => exact effect_of_missing rfl there
    | some s => exact effect_popFront there n
  | clone slot =>
    cases there : t.slots[slot]? with
    | none => simpa only [step, there] using Effect.nothing rfl
    | some s => simpa only [step, there, add] using Effect.viewed s (buffer_mem_known there) rfl
  | compare slot other =>
    have same : (t.step (.compare slot other)).2 = t := by
      simp only [step]
      split <;> rfl
    simpa only [same] using Effect.nothing rfl
  | decodeRouting slot =>
    cases there : t.slots[slot]? with
    | none => exact effect_of_missing rfl there
    | some s => exact effect_decodeRouting there
  | decodePacket slot =>
    cases there : t.slots[slot]? with
    | none => exact effect_of_missing rfl there
    | some s => exact effect_decodePacket there


/-- No slice changes but that of the slot that a command is about. -/
theorem Effect.isolated {t t' : SliceTable} {c : Command} (effect : Effect t c t') {i : Nat} {s : Slice}
    (there : t.slots[i]? = some s) (other : c.target? ≠ some i) : t'.slots[i]? = some s := by
  obtain ⟨inside, _⟩ := List.getElem?_eq_some_iff.1 there
  cases effect with
  | nothing => exact there
  | created w => rw [List.getElem?_append_left inside, there]
  | shared w => exact there
  | viewed s => rw [List.getElem?_append_left inside, there]
  | @taken slot _ s' _ _ target =>
    have apart : slot ≠ i := fun same => other (same ▸ target)
    rw [List.getElem?_append_left (by simpa using inside), List.getElem?_set_ne apart, there]

/-- A serial number stands for one buffer. Those that are still to come are larger. -/
structure Numbered (t : SliceTable) : Prop where
  below : ∀ b ∈ t.known, b.serial < t.allocated
  one : ∀ a ∈ t.known, ∀ b ∈ t.known, a.serial = b.serial → a = b

namespace Numbered
variable {t t' : SliceTable}

theorem empty : Numbered {} := ⟨nofun, nofun⟩

theorem of_known (numbered : Numbered t) (old : ∀ b ∈ t'.known, b ∈ t.known)
    (same : t'.allocated = t.allocated) : Numbered t' := by
  refine ⟨?_, ?_⟩
  · intro b seen
    rw [same]
    exact numbered.below b (old b seen)
  · intro a seen b seen'
    exact numbered.one a (old a seen) b (old b seen')

theorem of_fresh (numbered : Numbered t) (w : Writer)
    (old : ∀ b ∈ t'.known, b ∈ t.known ∨ b = ⟨t.allocated, w⟩)
    (next : t'.allocated = t.allocated + 1) : Numbered t' := by
  refine ⟨?_, ?_⟩
  · intro b seen
    rw [next]
    cases old b seen with
    | inl before => exact Nat.lt_succ_of_lt (numbered.below b before)
    | inr fresh => simp [fresh]
  · intro a seen b seen' same
    cases old a seen with
    | inl before =>
      cases old b seen' with
      | inl before' => exact numbered.one a before b before' same
      | inr fresh =>
        have below := numbered.below a before
        rw [same, fresh] at below
        exact absurd below (Nat.lt_irrefl _)
    | inr fresh =>
      cases old b seen' with
      | inl before' =>
        have below := numbered.below b before'
        rw [← same, fresh] at below
        exact absurd below (Nat.lt_irrefl _)
      | inr fresh' => rw [fresh, fresh']

theorem effect (numbered : Numbered t) {c : Command} (effect : Effect t c t') : Numbered t' := by
  cases effect with
  | nothing => exact numbered
  | created w =>
    refine numbered.of_fresh w (fun b seen => ?_) rfl
    simpa [known, Slice.whole, or_assoc, or_comm, or_left_comm] using seen
  | shared w =>
    refine numbered.of_fresh w (fun b seen => ?_) rfl
    simpa [known, or_assoc] using seen
  | viewed s before =>
    refine numbered.of_known (fun b seen => ?_) rfl
    simp only [known, List.map_append, List.mem_append, List.map_singleton, List.mem_singleton]
      at seen before ⊢
    obtain (seen | rfl) | seen := seen
    · exact .inl seen
    · exact before
    · exact .inr seen
  | taken target there pops removal alike =>
    refine numbered.of_known (fun b seen => ?_) rfl
    have before := buffer_mem_known there
    simp only [known, List.map_append, List.mem_append, List.mem_map] at seen before ⊢
    obtain (⟨r, kept, rfl⟩ | ⟨n, made, rfl⟩) | shared := seen
    · cases List.mem_or_eq_of_mem_set kept with
      | inl old => exact .inl ⟨r, old, rfl⟩
      | inr rest =>
        rw [rest, pops.buffer_eq]
        exact before
    · rw [alike n made]
      exact before
    · exact .inr shared

theorem run (numbered : Numbered t) (commands : List Command) : Numbered (t.run commands) := by
  induction commands generalizing t with
  | nil => exact numbered
  | cons c commands ih => exact ih (numbered.effect (t.effect c))

theorem sharesBuffer_iff (numbered : Numbered t) {a b : Slice} (there : a ∈ t.slots)
    (there' : b ∈ t.slots) : a.sharesBuffer b = true ↔ a.buffer = b.buffer := by
  have seen : a.buffer ∈ t.known := List.mem_append_left _ (List.mem_map_of_mem there)
  have seen' : b.buffer ∈ t.known := List.mem_append_left _ (List.mem_map_of_mem there')
  rw [Slice.sharesBuffer, beq_iff_eq]
  constructor
  · exact numbered.one _ seen _ seen'
  · intro same
    rw [same]

end Numbered
end Srv6Traffic.SliceTable
