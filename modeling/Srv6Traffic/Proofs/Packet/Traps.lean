import Srv6Traffic.Proofs.Packet.Stages

/-! Decoding without guarantees. Slices and routing headers carry proofs that they are well formed, so the
decoder has nothing to check about them. Here it goes over bare numbers and lists instead. It checks all
that those types promise at the point where it is relied on, and it traps where a check fails. It never
does: step by step the trapping decoder does what the decoder does. -/
namespace Srv6Traffic

/-- Why a run can break off without an answer. -/
inductive Trap where
  | index
  | underflow
  | popFront
  | invariant

/-- Two marks on the data of a buffer, with nothing known about them. -/
structure BareSlice where
  buffer : SharedBuffer
  start : Nat
  stop : Nat

def Slice.bare (s : Slice) : BareSlice := ⟨s.buffer, s.start, s.stop⟩

namespace BareSlice

def Valid (s : BareSlice) : Prop := s.start ≤ s.stop ∧ s.stop ≤ s.buffer.writer.dataLength

instance (s : BareSlice) : Decidable s.Valid := inferInstanceAs (Decidable (_ ∧ _))

def view (s : BareSlice) : Bytes := (s.buffer.writer.data.drop s.start).take (s.stop - s.start)

end BareSlice

theorem Slice.valid_bare (s : Slice) : s.bare.Valid := ⟨s.start_le, s.stop_le⟩

theorem Slice.view_bare (s : Slice) : s.bare.view = s.data := rfl

/-- A routing header as its fields are read, before anything is asserted of them. -/
structure BareRouting where
  nextHeader : Header.NextHeader
  segmentsLeft : UInt8
  lastEntry : UInt8
  flags : UInt8
  tag : UInt16
  segments : List Ipv6Address

namespace BareRouting
open Header Header.SegmentRouting

def Valid (r : BareRouting) : Prop :=
  r.segments ≠ [] ∧ r.segments.length ≤ maxSegments ∧ r.lastEntry.toNat + 1 = r.segments.length ∧
    r.segmentsLeft ≤ r.lastEntry

instance (r : BareRouting) : Decidable r.Valid := inferInstanceAs (Decidable (_ ∧ _ ∧ _ ∧ _))

def header? (r : BareRouting) : Option SegmentRouting :=
  ofParts? r.nextHeader r.segmentsLeft r.flags r.tag r.segments

def read : FieldReader BareRouting := do
  let nextHeader ← FieldReader.need .nextHeader NextHeader.read
  let extLength ← FieldReader.need .hdrExtLen Reader.octet
  let kind ← FieldReader.need .routingType Reader.octet
  FieldReader.check .routingType (kind = routingType)
  let segmentsLeft ← FieldReader.need .segmentsLeft Reader.octet
  let lastEntry ← FieldReader.need .lastEntry Reader.octet
  FieldReader.check .segmentsLeft (segmentsLeft ≤ lastEntry)
  FieldReader.check .hdrExtLen (extLength.toNat = 2 * (lastEntry.toNat + 1))
  let flags ← FieldReader.need .flags Reader.octet
  let tag ← FieldReader.need .tag Reader.word
  let segments ← FieldReader.need .segments (Reader.times readSegment (lastEntry.toNat + 1))
  return ⟨nextHeader, segmentsLeft, lastEntry, flags, tag, segments⟩

theorem read_bind : (do let r ← read; FieldReader.need .segments (Reader.lift r.header?)) =
    SegmentRouting.read := by
  simp only [read, SegmentRouting.read, bind_assoc, pure_bind, header?]

theorem read_of_error {bytes : Bytes} {cause : Field} (failed : read bytes = .error cause) :
    SegmentRouting.read bytes = .error cause := by
  rw [← read_bind, FieldReader.bind_eq, failed]
  rfl

/-- The octet that tells the length bounds the number of segments, whatever the last entry may be. -/
theorem valid_of_read {r : BareRouting} {bytes rest : Bytes} (done : read bytes = .ok (r, rest)) :
    r.Valid := by
  obtain ⟨nextHeader, _, _, done⟩ := FieldReader.bind_eq_ok_iff.1 done
  obtain ⟨ext, _, _, done⟩ := FieldReader.bind_eq_ok_iff.1 done
  obtain ⟨kind, _, _, done⟩ := FieldReader.bind_eq_ok_iff.1 done
  obtain ⟨_, _, _, done⟩ := FieldReader.bind_eq_ok_iff.1 done
  obtain ⟨left, _, _, done⟩ := FieldReader.bind_eq_ok_iff.1 done
  obtain ⟨last, _, _, done⟩ := FieldReader.bind_eq_ok_iff.1 done
  obtain ⟨_, _, check₂, done⟩ := FieldReader.bind_eq_ok_iff.1 done
  obtain ⟨_, _, check₃, done⟩ := FieldReader.bind_eq_ok_iff.1 done
  obtain ⟨flags, _, _, done⟩ := FieldReader.bind_eq_ok_iff.1 done
  obtain ⟨tag, _, _, done⟩ := FieldReader.bind_eq_ok_iff.1 done
  obtain ⟨segments, _, read₈, built⟩ := FieldReader.bind_eq_ok_iff.1 done
  cases built
  have left_le := of_decide_eq_true (FieldReader.check_eq_ok_iff.1 check₂).1
  have suits := of_decide_eq_true (FieldReader.check_eq_ok_iff.1 check₃).1
  have ext_lt := ext.toNat_lt
  rw [FieldReader.need_eq_ok_iff] at read₈
  obtain ⟨count, _⟩ := (Reader.times_eq_some_iff readSegment_eq_some_iff).1 read₈
  have some : 0 < segments.length := by omega
  have few : segments.length ≤ 127 := by omega
  exact ⟨List.ne_nil_of_length_pos some, few, count.symm, left_le⟩

theorem exists_header {r : BareRouting} (valid : r.Valid) : ∃ h, r.header? = some h := by
  obtain ⟨_, few, count, left⟩ := valid
  rw [UInt8.le_iff_toNat_le] at left
  have inside : r.segmentsLeft.toNat < r.segments.length := by omega
  exact ⟨_, dif_pos ⟨inside, few⟩⟩

theorem read_of_header {r : BareRouting} {h : SegmentRouting} {bytes rest : Bytes}
    (done : read bytes = .ok (r, rest)) (built : r.header? = some h) :
    SegmentRouting.read bytes = .ok (h, rest) := by
  rw [← read_bind, FieldReader.bind_eq, done]
  change FieldReader.need .segments (Reader.lift r.header?) rest = _
  rw [built]
  rfl

end BareRouting

abbrev TrappingDecoder := EStateM (Trap ⊕ Field) BareSlice

namespace TrappingDecoder
variable {α : Type}

def demand (trap : Trap) (holds : Prop) [Decidable holds] : TrappingDecoder Unit :=
  if holds then pure () else throw (.inl trap)

def data : TrappingDecoder Bytes := do
  let s ← get
  demand .index s.Valid
  return s.view

def length : TrappingDecoder Nat := do
  let s ← get
  demand .underflow (s.start ≤ s.stop)
  return s.stop - s.start

def popFront (n : Nat) : TrappingDecoder BareSlice := do
  let s ← get
  let front : BareSlice := { s with stop := s.start + n }
  let rest : BareSlice := { s with start := s.start + n }
  demand .popFront (s.start + n ≤ s.stop)
  demand .popFront front.Valid
  set rest
  demand .invariant rest.Valid
  return front

def pop (read : FieldReader α) : TrappingDecoder α := do
  let bytes ← data
  match read bytes with
  | .error field => throw (.inr field)
  | .ok (a, rest) => do
    demand .underflow (rest.length ≤ bytes.length)
    let _ ← popFront (bytes.length - rest.length)
    return a

def routing : TrappingDecoder Header.SegmentRouting := do
  let r ← pop BareRouting.read
  demand .invariant r.Valid
  match r.header? with
  | some h => return h
  | none => throw (.inl .invariant)

def remainder : TrappingDecoder BareSlice := do
  let n ← length
  popFront n

def routed (ethernet : Header.Ethernet) (ipv6 : Header.Ipv6) : TrappingDecoder (Headers × BareSlice) := do
  let routing ← routing
  let ipv4 ← pop (FieldReader.need .ipv4 Header.Ipv4.read)
  let udp ← pop (FieldReader.need .udp Header.Udp.read)
  let payload ← remainder
  let headers : Headers := ⟨ethernet, ipv6, routing, ipv4, udp⟩
  demand .index payload.Valid
  match headers.conflict? payload.view with
  | none => return (headers, payload)
  | some field => throw (.inr field)

/-- The headers and the payload of a packet, with the same checks in the same order. -/
def packet : TrappingDecoder (Headers × BareSlice) := do
  let ethernet ← pop (FieldReader.need .ethernet Header.Ethernet.read)
  let ipv6 ← pop (FieldReader.need .ipv6 Header.Ipv6.read)
  let n ← length
  if ipv6.payloadLength.toNat ≠ n then throw (.inr .payloadLength) else routed ethernet ipv6

/-- An outcome of the decoder as the trapping one shows it: an answer or an error, and no trap. -/
def shown {β : Type} (f : α → β) : EStateM.Result Field Slice α → EStateM.Result (Trap ⊕ Field) BareSlice β
  | .ok a s => .ok (f a) s.bare
  | .error field s => .error (.inr field) s.bare

theorem shown_ne_trap {β : Type} (f : α → β) (result : EStateM.Result Field Slice α) (trap : Trap)
    (rest : BareSlice) : shown f result ≠ .error (.inl trap) rest := by
  cases result with
  | ok a s => nofun
  | error field s => nofun

/-- From every slice the trapping decoder goes where the decoder goes. -/
def Follows {β : Type} (t : TrappingDecoder β) (d : Decoder α) (f : α → β) : Prop :=
  ∀ s : Slice, t s.bare = shown f (d s)

variable {β γ δ : Type}

theorem demand_of_holds (trap : Trap) {holds : Prop} [Decidable holds] (h : holds) (s : BareSlice) :
    demand trap holds s = .ok () s := by
  rw [demand, if_pos h]
  rfl

theorem demand_of_fails (trap : Trap) {holds : Prop} [Decidable holds] (h : ¬ holds) (s : BareSlice) :
    demand trap holds s = .error (.inl trap) s := by
  rw [demand, if_neg h]
  rfl

theorem get_eq (s : BareSlice) : (get : TrappingDecoder BareSlice) s = .ok s s := rfl

theorem Follows.bind {t : TrappingDecoder β} {d : Decoder α} {f : α → β} {next : β → TrappingDecoder δ}
    {next' : α → Decoder γ} {g : γ → δ} (first : Follows t d f)
    (second : ∀ a, Follows (next (f a)) (next' a) g) : Follows (t >>= next) (d >>= next') g := by
  intro s
  have stepped := first s
  cases happens : d s with
  | ok a s' =>
    rw [happens] at stepped
    rw [bind_of_ok stepped, bind_of_ok happens]
    exact second a s'
  | error field s' =>
    rw [happens] at stepped
    rw [bind_of_error stepped, bind_of_error happens]
    rfl

theorem data_bare (s : Slice) : data s.bare = .ok s.data s.bare := by
  rw [data, bind_of_ok (get_eq _), bind_of_ok (demand_of_holds _ s.valid_bare _)]
  rfl

theorem follows_length : Follows length get Slice.length := by
  intro s
  have ordered : s.bare.start ≤ s.bare.stop := s.start_le
  rw [length, bind_of_ok (get_eq _), bind_of_ok (demand_of_holds _ ordered _)]
  rfl

theorem popFront_bare {s front rest : Slice} {n : Nat} (popped : s.popFront? n = some (front, rest)) :
    popFront n s.bare = .ok front.bare rest.bare := by
  unfold Slice.popFront? at popped
  split at popped
  next fits =>
    cases popped
    have inside : s.bare.start + n ≤ s.bare.stop := fits
    have frontValid : BareSlice.Valid { s.bare with stop := s.bare.start + n } :=
      ⟨Nat.le_add_right _ _, Nat.le_trans fits s.stop_le⟩
    have restValid : BareSlice.Valid { s.bare with start := s.bare.start + n } := ⟨fits, s.stop_le⟩
    have set_eq (t : BareSlice) : (set t : TrappingDecoder PUnit) s.bare = .ok ⟨⟩ t := rfl
    rw [popFront, bind_of_ok (get_eq _), bind_of_ok (demand_of_holds _ inside _),
      bind_of_ok (demand_of_holds _ frontValid _), bind_of_ok (set_eq _),
      bind_of_ok (demand_of_holds _ restValid _)]
    rfl
  next => cases popped

theorem pop_of_error {read : FieldReader α} {s : Slice} {cause : Field} (h : read s.data = .error cause) :
    pop read s.bare = .error (.inr cause) s.bare := by
  rw [pop, bind_of_ok (data_bare s), h]
  rfl

/-- Where a reader leaves all but the first `n` octets, both decoders take off `n` octets. -/
theorem pop_of_popped {read : FieldReader α} {s front rest : Slice} {a : α} {n : Nat}
    (h : read s.data = .ok (a, s.data.drop n)) (popped : s.popFront? n = some (front, rest))
    (field : Field) :
    pop read s.bare = .ok a rest.bare ∧ Decoder.pop field read s = .ok a rest := by
  have fits := (Slice.popFront?_eq_some popped).1
  rw [← s.length_data] at fits
  have taken : s.data.length - (s.data.drop n).length = n := by
    rw [List.length_drop]
    omega
  have shorter : (s.data.drop n).length ≤ s.data.length := by
    rw [List.length_drop]
    omega
  constructor
  · rw [pop, bind_of_ok (data_bare s), h]
    dsimp only
    rw [bind_of_ok (demand_of_holds _ shorter _), taken, bind_of_ok (popFront_bare popped)]
    rfl
  · simp only [Decoder.pop, h, taken, popped]

theorem follows_pop {read : FieldReader α} {size : α → Nat} (takes : read.Takes size) (field : Field) :
    Follows (pop read) (Decoder.pop field read) id := by
  intro s
  cases happens : read s.data with
  | error cause =>
    rw [pop_of_error happens]
    simp only [Decoder.pop, happens, shown]
  | ok pair =>
    obtain ⟨a, _⟩ := pair
    obtain ⟨fits, rfl⟩ := takes _ _ _ happens
    rw [s.length_data] at fits
    obtain ⟨front, rest, popped, _⟩ := Slice.popFront?_of_le fits
    obtain ⟨trapping, plain⟩ := pop_of_popped happens popped field
    rw [trapping, plain]
    rfl

theorem follows_remainder : Follows remainder Decoder.remainder Slice.bare := by
  intro s
  obtain ⟨front, rest, popped, _⟩ := Slice.popFront?_of_le (Nat.le_refl s.length)
  rw [remainder, bind_of_ok (follows_length s), popFront_bare popped, Decoder.remainder, popped]
  rfl

/-- What is asserted of a routing header when it has been read is never wrong. -/
theorem follows_routing : Follows routing Decoder.routing id := by
  intro s
  cases happens : BareRouting.read s.data with
  | error cause =>
    have failed := BareRouting.read_of_error happens
    rw [routing, bind_of_error (pop_of_error happens)]
    simp only [Decoder.routing, Decoder.pop, failed, shown]
  | ok pair =>
    obtain ⟨r, _⟩ := pair
    have valid := BareRouting.valid_of_read happens
    obtain ⟨h, built⟩ := BareRouting.exists_header valid
    have done := BareRouting.read_of_header happens built
    obtain ⟨fits, rfl⟩ := Header.SegmentRouting.takes _ _ _ done
    rw [s.length_data] at fits
    obtain ⟨front, rest, popped, _⟩ := Slice.popFront?_of_le fits
    rw [routing, bind_of_ok (pop_of_popped happens popped .segments).1,
      bind_of_ok (demand_of_holds _ valid _), built, Decoder.routing, (pop_of_popped done popped _).2]
    rfl

theorem follows_throw (field : Field) (f : α → β) :
    Follows (throw (.inr field)) (throw field : Decoder α) f := fun _ => rfl

theorem follows_pure (f : α → β) (a : α) : Follows (pure (f a)) (pure a : Decoder α) f := fun _ => rfl

theorem Follows.ite {c : Prop} [Decidable c] {t t' : TrappingDecoder β} {d d' : Decoder α} {f : α → β}
    (yes : Follows t d f) (no : Follows t' d' f) :
    Follows (if c then t else t') (if c then d else d') f := by
  by_cases h : c
  · rw [if_pos h, if_pos h]
    exact yes
  · rw [if_neg h, if_neg h]
    exact no

def parts (p : Packet) : Headers × BareSlice := (p.headers, p.payload.bare)

theorem follows_routed (ethernet : Header.Ethernet) (ipv6 : Header.Ipv6) :
    Follows (routed ethernet ipv6) (Packet.decodeRouted ethernet ipv6) parts := by
  refine follows_routing.bind fun routing => ?_
  refine (follows_pop Header.Ipv4.takes _).bind fun ipv4 => ?_
  refine (follows_pop Header.Udp.takes _).bind fun udp => ?_
  refine follows_remainder.bind fun payload => ?_
  intro s
  dsimp only [id]
  rw [bind_of_ok (demand_of_holds _ payload.valid_bare _), payload.view_bare]
  cases built : Packet.build ⟨ethernet, ipv6, routing, ipv4, udp⟩ payload with
  | error field =>
    rw [Packet.build_eq_error_iff.1 built]
    exact follows_throw field parts s
  | ok p =>
    obtain ⟨headers, slice⟩ := Packet.build_eq_ok built
    have consistent := p.consistent
    rw [headers, slice] at consistent
    rw [consistent, ← headers, ← slice]
    exact follows_pure parts p s

theorem follows_packet : Follows packet Packet.decode parts := by
  rw [Packet.decode_eq]
  refine (follows_pop Header.Ethernet.takes _).bind fun ethernet => ?_
  refine (follows_pop Header.Ipv6.takes _).bind fun ipv6 => ?_
  refine follows_length.bind fun s => ?_
  exact (follows_throw _ _).ite (follows_routed ethernet ipv6)

/-- The checks are not idle. Marks that do not fit their buffer trap as soon as anything is read. -/
theorem packet_of_invalid {s : BareSlice} (invalid : ¬ s.Valid) : packet s = .error (.inl .index) s := by
  have trapped : data s = .error (.inl .index) s := by
    rw [data, bind_of_ok (get_eq _), bind_of_error (demand_of_fails _ invalid _)]
  rw [packet]
  refine bind_of_error ?_ _
  rw [pop]
  exact bind_of_error trapped _

end TrappingDecoder

namespace Packet

/-- Decoding is safe whatever the octets are. No check that it relies on can fail, taking off the payload
cannot fail either, and what is left is what stands behind the last header that could be read. -/
theorem decode_safe (s : Slice) :
    TrappingDecoder.packet s.bare = TrappingDecoder.shown TrappingDecoder.parts (decode s) ∧
      (∀ trap rest, TrappingDecoder.packet s.bare ≠ .error (.inl trap) rest) ∧
      (∀ rest, decode s ≠ .error .payload rest) ∧
      Ends s.data (decode s) ∧ (Decoder.left (decode s)).data <:+ s.data := by
  have follows := TrappingDecoder.follows_packet s
  have ends := decode_ends s
  refine ⟨follows, ?_, decode_ne_payload s, ends, ends.suffix⟩
  intro trap rest
  rw [follows]
  exact TrappingDecoder.shown_ne_trap _ _ trap rest

end Packet
end Srv6Traffic
