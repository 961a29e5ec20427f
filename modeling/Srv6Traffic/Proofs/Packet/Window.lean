import Srv6Traffic.Proofs.Packet.Advance
import Srv6Traffic.Proofs.Packet.Layout
import Srv6Traffic.Proofs.Packet.Stages

/-! What decoders can see. The same octets may stand in two buffers, with other octets around them and at
other marks. Decoders that run side by side on two such slices do the same at every step: they go on with
equal answers or stop with the same error, and they leave the same octets. -/
namespace Srv6Traffic

namespace Slice
variable {s t : Slice}

/-- Where in the memory of its buffer a slice begins. -/
def origin (s : Slice) : Nat := s.buffer.writer.start + s.start

/-- The octet at a place of the memory, counted from where the slice begins. -/
def memoryAt (s : Slice) (i : Nat) : Option UInt8 := s.buffer.writer.buffer[s.origin + i]?

/-- Two slices are as long as each other, and between their marks the memories are alike. -/
def Coincide (s t : Slice) : Prop := s.length = t.length ∧ ∀ i, i < s.length → s.memoryAt i = t.memoryAt i

theorem getElem?_data (s : Slice) (i : Nat) :
    s.data[i]? = if i < s.length then s.memoryAt i else none := by
  have inside := s.stop_le
  unfold Writer.dataLength at inside
  by_cases within : i < s.length
  · have before : s.start + i < s.buffer.writer.stop - s.buffer.writer.start := by
      unfold length at within
      omega
    have front : i < s.stop - s.start := within
    rw [if_pos within, data, Writer.data, List.getElem?_take_of_lt front, List.getElem?_drop,
      List.getElem?_take_of_lt before, List.getElem?_drop, memoryAt, origin, Nat.add_assoc]
  · rw [if_neg within, List.getElem?_eq_none]
    rw [length_data]
    exact Nat.le_of_not_lt within

theorem data_eq_iff_coincide : s.data = t.data ↔ s.Coincide t := by
  constructor
  · intro shown
    have length : s.length = t.length := by rw [← s.length_data, shown, t.length_data]
    refine ⟨length, ?_⟩
    intro i within
    have octet := congrArg (·[i]?) shown
    simp only [getElem?_data, within, length ▸ within, if_true] at octet
    exact octet
  · intro ⟨length, octets⟩
    apply List.ext_getElem?
    intro i
    rw [getElem?_data, getElem?_data, ← length]
    by_cases within : i < s.length
    · rw [if_pos within, if_pos within, octets i within]
    · rw [if_neg within, if_neg within]

/-- What is left when octets have been taken off the front. -/
structure Leaves (s left : Slice) : Prop where
  buffer : left.buffer = s.buffer
  start : s.start ≤ left.start
  stop : left.stop = s.stop

theorem marks_of_popFront {front rest : Slice} {n : Nat} (popped : s.popFront? n = some (front, rest)) :
    front.start = s.start ∧ front.stop = s.start + n ∧ s.Leaves rest := by
  unfold popFront? at popped
  split at popped
  next =>
    cases popped
    exact ⟨rfl, rfl, rfl, Nat.le_add_right _ _, rfl⟩
  next => cases popped

theorem Pops.leaves {pieces : List Slice} {left : Slice} (pops : s.Pops pieces left) : s.Leaves left := by
  induction pops with
  | nil => exact ⟨rfl, Nat.le_refl _, rfl⟩
  | cons popped _ ih =>
    obtain ⟨_, _, first⟩ := marks_of_popFront popped
    exact ⟨ih.buffer.trans first.buffer, Nat.le_trans first.start ih.start, ih.stop.trans first.stop⟩

end Slice

namespace Decoder
variable {α β γ δ : Type}

/-- Two runs end alike: with answers that belong together or with one error, and the same octets left. -/
inductive Alike (same : α → β → Prop) : EStateM.Result Field Slice α → EStateM.Result Field Slice β → Prop
  | ok {a : α} {b : β} {s t : Slice} (answers : same a b) (left : s.data = t.data) :
      Alike same (.ok a s) (.ok b t)
  | error (field : Field) {s t : Slice} (left : s.data = t.data) :
      Alike same (.error field s) (.error field t)

theorem pieces_of_pop {field : Field} {read : FieldReader α} {s s' : Slice} {a : α}
    (done : pop field read s = .ok a s') : ∃ pieces, s.Pops pieces s' := by
  have takes := takesPieces_pop field read s
  rw [done] at takes
  exact takes

theorem marks_of_remainder {s front rest : Slice} (taken : remainder s = .ok front rest) :
    front.stop = s.stop ∧ s.Leaves rest := by
  unfold remainder at taken
  cases popped : s.popFront? s.length with
  | none =>
    rw [popped] at taken
    cases taken
  | some pair =>
    rw [popped] at taken
    cases taken
    obtain ⟨_, stop, leaves⟩ := Slice.marks_of_popFront popped
    exact ⟨stop.trans (Nat.add_sub_cancel' s.start_le), leaves⟩

/-- From slices that show the same octets two decoders come to ends that are alike. -/
def Parallel (same : α → β → Prop) (d : Decoder α) (e : Decoder β) : Prop :=
  ∀ s t : Slice, s.data = t.data → Alike same (d s) (e t)

theorem Parallel.bind {same : α → β → Prop} {same' : γ → δ → Prop} {d : Decoder α} {e : Decoder β}
    {next : α → Decoder γ} {next' : β → Decoder δ} (first : Parallel same d e)
    (second : ∀ a b, same a b → Parallel same' (next a) (next' b)) :
    Parallel same' (d >>= next) (e >>= next') := by
  intro s t shown
  have ends := first s t shown
  cases happens : d s with
  | ok a s' =>
    cases happens' : e t with
    | ok b t' =>
      rw [happens, happens'] at ends
      rw [bind_of_ok happens, bind_of_ok happens']
      cases ends with
      | ok answers left => exact second a b answers s' t' left
    | error field t' =>
      rw [happens, happens'] at ends
      cases ends
  | error field s' =>
    rw [happens] at ends
    rw [bind_of_error happens]
    generalize ended : e t = outcome at ends
    cases ends with
    | error _ left =>
      rw [bind_of_error ended]
      exact .error field left

theorem parallel_pure {same : α → β → Prop} {a : α} {b : β} (answers : same a b) :
    Parallel same (pure a) (pure b) := fun _ _ shown => .ok answers shown

theorem parallel_throw (same : α → β → Prop) (field : Field) :
    Parallel same (throw field) (throw field) := fun _ _ shown => .error field shown

theorem parallel_get : Parallel (fun s t : Slice => s.data = t.data) get get :=
  fun _ _ shown => .ok shown shown

/-- Whatever is read, as many octets come off both slices. -/
theorem parallel_pop (field : Field) (read : FieldReader α) :
    Parallel Eq (pop field read) (pop field read) := by
  intro s t shown
  unfold pop
  rw [shown]
  cases read t.data with
  | error cause => exact .error cause shown
  | ok r =>
    have length : s.length = t.length := by rw [← s.length_data, shown, t.length_data]
    have fits : t.data.length - r.2.length ≤ t.data.length := Nat.sub_le _ _
    dsimp only
    generalize t.data.length - r.2.length = n at fits ⊢
    rw [t.length_data] at fits
    obtain ⟨_, rest, popped, _, left, _⟩ := Slice.popFront?_of_le (length ▸ fits : n ≤ s.length)
    obtain ⟨_, rest', popped', _, left', _⟩ := Slice.popFront?_of_le fits
    rw [popped, popped']
    exact .ok rfl (by rw [left, left', shown])

theorem parallel_remainder : Parallel (fun s t : Slice => s.data = t.data) remainder remainder := by
  intro s t shown
  obtain ⟨front, rest, taken, all, nothing, _⟩ := remainder_eq s
  obtain ⟨front', rest', taken', all', nothing', _⟩ := remainder_eq t
  rw [taken, taken']
  exact .ok (by rw [all, all', shown]) (by rw [nothing, nothing'])

theorem parallel_routing : Parallel Eq routing routing := parallel_pop _ _

end Decoder

namespace Packet
open Decoder

/-- Equal packets, as the program compares them: payloads may lie in different buffers. -/
def Same (p q : Packet) : Prop := (p == q) = true

theorem same_iff {p q : Packet} :
    Same p q ↔ p.headers = q.headers ∧ p.payload.data = q.payload.data := by
  change (p.headers == q.headers && p.payload.data == q.payload.data) = true ↔ _
  rw [Bool.and_eq_true, beq_iff_eq, beq_iff_eq]

theorem parallel_build (h : Headers) {a b : Slice} (shown : a.data = b.data) :
    Parallel Same
      (match build h a with
        | .ok packet => pure packet
        | .error field => throw field)
      (match build h b with
        | .ok packet => pure packet
        | .error field => throw field) := by
  cases built : build h a with
  | error field =>
    rw [build_eq_error_iff, shown, ← build_eq_error_iff] at built
    rw [built]
    exact parallel_throw _ field
  | ok p =>
    cases built' : build h b with
    | error field =>
      rw [build_eq_error_iff, ← shown, ← build_eq_error_iff, built] at built'
      cases built'
    | ok q =>
      obtain ⟨headers, payload⟩ := build_eq_ok built
      obtain ⟨headers', payload'⟩ := build_eq_ok built'
      apply parallel_pure
      apply same_iff.2
      rw [headers, headers', payload, payload']
      exact ⟨rfl, shown⟩

theorem parallel_decodeRouted (e : Header.Ethernet) (o : Header.Ipv6) :
    Parallel Same (decodeRouted e o) (decodeRouted e o) := by
  refine parallel_routing.bind fun r _ same => ?_
  subst same
  refine (parallel_pop _ _).bind fun v _ same => ?_
  subst same
  refine (parallel_pop _ _).bind fun u _ same => ?_
  subst same
  exact parallel_remainder.bind fun _ _ shown => parallel_build _ shown

theorem parallel_decode : Parallel Same decode decode := by
  rw [decode_eq]
  refine (parallel_pop _ _).bind fun e _ same => ?_
  subst same
  refine (parallel_pop _ _).bind fun o _ same => ?_
  subst same
  refine parallel_get.bind fun s t shown => ?_
  rw [← s.length_data, shown, t.length_data]
  split
  · exact parallel_throw _ _
  · exact parallel_decodeRouted e o

/-- The payload is what is taken off last: all that is left behind the headers. -/
theorem remainder_of_decode {s rest : Slice} {p : Packet} (done : decode s = .ok p rest) :
    ∃ pieces mid, s.Pops pieces mid ∧ remainder mid = .ok p.payload rest := by
  rw [decode_eq] at done
  obtain ⟨e, s₁, done₁, done⟩ := bind_eq_ok_iff.1 done
  obtain ⟨o, s₂, done₂, done⟩ := bind_eq_ok_iff.1 done
  obtain ⟨_, _, got, done⟩ := bind_eq_ok_iff.1 done
  cases got
  split at done
  · cases done
  · obtain ⟨r, s₃, done₃, done⟩ := bind_eq_ok_iff.1 done
    obtain ⟨v, s₄, done₄, done⟩ := bind_eq_ok_iff.1 done
    obtain ⟨u, s₅, done₅, done⟩ := bind_eq_ok_iff.1 done
    obtain ⟨payload, s₆, done₆, done⟩ := bind_eq_ok_iff.1 done
    obtain ⟨_, pops₁⟩ := pieces_of_pop done₁
    obtain ⟨_, pops₂⟩ := pieces_of_pop done₂
    obtain ⟨_, pops₃⟩ := pieces_of_pop done₃
    obtain ⟨_, pops₄⟩ := pieces_of_pop done₄
    obtain ⟨_, pops₅⟩ := pieces_of_pop done₅
    refine ⟨_, s₅, pops₁.append (pops₂.append (pops₃.append (pops₄.append pops₅))), ?_⟩
    cases built : build ⟨e, o, r, v, u⟩ payload with
    | error field =>
      rw [built] at done
      cases done
    | ok q =>
      rw [built] at done
      cases done
      rw [(build_eq_ok built).2]
      exact done₆

/-- The payload ends where the slice ended, and it begins where the headers end. -/
theorem marks_of_payload {s rest : Slice} {p : Packet} (done : decode s = .ok p rest) :
    p.payload.buffer = s.buffer ∧ p.payload.start = s.start + p.headers.size ∧
      p.payload.stop = s.stop := by
  obtain ⟨frames, _, same⟩ := frames_of_decode done
  obtain ⟨pieces, mid, pops, taken⟩ := remainder_of_decode done
  have leaves := pops.leaves
  have length := frames.length
  have ordered := p.payload.start_le
  have ordered' := mid.start_le
  have ordered'' := s.start_le
  have behind := leaves.start
  rw [s.length_data, p.payload.length_data, Slice.length, Slice.length] at length
  obtain ⟨stop, _⟩ := marks_of_remainder taken
  rw [leaves.stop] at stop
  exact ⟨same, by omega, stop⟩

/-- Decoders see what a slice shows and nothing around it. On slices that show the same octets they end alike,
whatever the buffers are and wherever the marks are in them. What they leave and the payload that they give
out lie between the marks of the slice. -/
theorem decoders_see_window (s : Slice) :
    (∀ t : Slice, s.data = t.data ↔ s.Coincide t) ∧
    (∀ t : Slice, s.data = t.data → Alike Eq (routing s) (routing t) ∧ Alike Same (decode s) (decode t)) ∧
    s.Leaves (left (routing s)) ∧ s.Leaves (left (decode s)) ∧
    ∀ p rest, decode s = .ok p rest → p.payload.buffer = s.buffer ∧
      p.payload.start = s.start + p.headers.size ∧ p.payload.stop = s.stop := by
  obtain ⟨_, routed⟩ := takesPieces_routing s
  obtain ⟨_, decoded⟩ := decode_takesPieces s
  refine ⟨fun t => Slice.data_eq_iff_coincide, ?_, routed.leaves, decoded.leaves, ?_⟩
  · intro t shown
    exact ⟨parallel_routing s t shown, parallel_decode s t shown⟩
  · intro p rest done
    exact marks_of_payload done

/-- The sample as a window on the data of a buffer, with other octets on all sides. -/
def surroundedSample : Slice :=
  ⟨⟨1, ⟨[1, 2, 3, 4, 5] ++ (Headers.sampleFrame ++ [6, 7]), 2, 137, by decide, by decide +kernel⟩⟩, 3,
    134, by decide, by decide⟩

theorem surroundedSample_decodes : ∃ (p q : Packet) (rest rest' : Slice),
    decode (Slice.ofBytes 0 Headers.sampleFrame) = .ok p rest ∧
    decode surroundedSample = .ok q rest' ∧ Same p q ∧ q.payload.start = 129 ∧ q.payload.stop = 134 := by
  obtain ⟨p, rest, done, headers, _⟩ := decode_sample
  obtain ⟨_, alike, _⟩ := decoders_see_window (Slice.ofBytes 0 Headers.sampleFrame)
  obtain ⟨_, _, _, _, marks⟩ := decoders_see_window surroundedSample
  have shown : (Slice.ofBytes 0 Headers.sampleFrame).data = surroundedSample.data := by
    rw [Slice.data_ofBytes]
    decide +kernel
  obtain ⟨_, ends⟩ := alike surroundedSample shown
  rw [done] at ends
  generalize happens : decode surroundedSample = outcome at ends
  cases ends with
  | @ok _ q _ rest' same _ =>
    obtain ⟨_, start, stop⟩ := marks q rest' happens
    rw [← (same_iff.1 same).1, headers] at start
    exact ⟨p, q, rest, rest', done, rfl, same, start, stop⟩

end Packet
end Srv6Traffic
