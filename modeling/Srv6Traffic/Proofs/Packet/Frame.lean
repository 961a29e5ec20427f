import Srv6Traffic.Packet.Codec
import Srv6Traffic.Proofs.Buffer.Views
import Srv6Traffic.Proofs.Header.Fixed
import Srv6Traffic.Proofs.Header.Ipv4
import Srv6Traffic.Proofs.Header.SegmentRouting

/-! Frames as octet strings: five headers one after the other, and a payload. The decoder and the
encoder are each tied to this one layout, so that no later proof runs through either of them again. -/
namespace Srv6Traffic

namespace Headers

theorem size_eq (h : Headers) : h.size = 14 + 40 + h.routing.size + h.ipv4.size + 8 := rfl

/-- The headers as they follow each other, with `flags` in the flags word of the IPv4 header. -/
def encodeFlagged (h : Headers) (flags : UInt16) : Bytes :=
  h.ethernet.encode ++ (h.ipv6.encode ++ (h.routing.encode ++
    (h.ipv4.encodeFlagged flags ++ h.udp.encode)))

def encode (h : Headers) : Bytes := h.encodeFlagged h.ipv4.flagsWord

/-- An octet string that carries the headers and the payload. It may come with the reserved bit. -/
def Frames (h : Headers) (payload bytes : Bytes) : Prop :=
  ∃ flags, h.ipv4.Flagged flags ∧ bytes = h.encodeFlagged flags ++ payload

@[simp] theorem length_encodeFlagged (h : Headers) (flags : UInt16) :
    (h.encodeFlagged flags).length = h.size := by
  simp only [encodeFlagged, List.length_append, Header.Ethernet.length_encode,
    Header.Ipv6.length_encode, Header.SegmentRouting.length_encode,
    Header.Ipv4.length_encodeFlagged, Header.Udp.length_encode, size]
  omega

theorem frames_encode (h : Headers) (payload : Bytes) : h.Frames payload (h.encode ++ payload) :=
  ⟨h.ipv4.flagsWord, h.ipv4.flagged_flagsWord, rfl⟩

theorem Frames.length {h : Headers} {payload bytes : Bytes} (frames : h.Frames payload bytes) :
    bytes.length = h.size + payload.length := by
  obtain ⟨flags, _, same⟩ := frames
  rw [same, List.length_append, length_encodeFlagged]

/-- All that headers have to agree on with each other and with the payload. -/
structure Agree (h : Headers) (payload : Bytes) : Prop where
  etherType : h.ethernet.etherType = Header.Ethernet.typeIpv6
  routed : h.ipv6.nextHeader = Header.NextHeader.routing.number
  destination : h.ipv6.destination = h.routing.activeSegment
  payloadLength : h.ipv6.payloadLength.toNat = h.routing.size + h.ipv4.totalLength.toNat
  tunnelled : h.routing.nextHeader = .ipInIp
  protocol : h.ipv4.protocol = Header.Ipv4.protocolUdp
  headerChecksum : h.ipv4.checksum = h.ipv4.headerChecksum
  totalLength : h.ipv4.totalLength.toNat = h.ipv4.size + h.udp.length.toNat
  length : h.udp.length.toNat = Header.Udp.size + payload.length
  checksum : h.udp.checksum = 0 ∨
    h.udp.checksum = h.udp.checksumFor h.ipv4.source h.ipv4.destination payload

theorem ite_some_eq_none_iff {α : Type} {c : Prop} [Decidable c] {a : α} {next : Option α} :
    (if c then some a else next) = none ↔ ¬c ∧ next = none := by
  by_cases h : c
  · simp [h]
  · simp [h]

theorem conflict?_eq_none_iff {h : Headers} {payload : Bytes} :
    h.conflict? payload = none ↔ h.Agree payload := by
  simp only [conflict?, ite_some_eq_none_iff, ne_eq, Decidable.not_not,
    Decidable.not_and_iff_not_or_not, and_true]
  constructor
  · intro ⟨a, b, c, d, e, f, g, i, j, k⟩
    exact ⟨a, b, c, d, e, f, g, i, j, k⟩
  · intro ⟨a, b, c, d, e, f, g, i, j, k⟩
    exact ⟨a, b, c, d, e, f, g, i, j, k⟩

/-- The checks on neighbouring lengths add up to one on the whole frame. -/
theorem Agree.payloadLength_eq {h : Headers} {payload bytes : Bytes} (agree : h.Agree payload)
    (frames : h.Frames payload bytes) : h.ipv6.payloadLength.toNat + 54 = bytes.length := by
  have := agree.payloadLength
  have := agree.totalLength
  have := agree.length
  have := frames.length
  have := h.size_eq
  have : Header.Udp.size = 8 := rfl
  omega

end Headers

section
variable {ε σ α β : Type} {x : EStateM ε σ α} {s s' : σ}

theorem bind_of_ok {a : α} (h : x s = .ok a s') (next : α → EStateM ε σ β) : (x >>= next) s = next a s' := by
  change EStateM.bind x next s = _
  unfold EStateM.bind
  rw [h]

theorem bind_of_error {e : ε} (h : x s = .error e s') (next : α → EStateM ε σ β) :
    (x >>= next) s = .error e s' := by
  change EStateM.bind x next s = _
  unfold EStateM.bind
  rw [h]

end

namespace Decoder
variable {α β : Type} {s s' : Slice}

/-- The slice that is left behind, by a success or by a failure. -/
def left : EStateM.Result Field Slice α → Slice
  | .ok _ s => s
  | .error _ s => s

theorem bind_eq_ok_iff {d : Decoder α} {next : α → Decoder β} {b : β} :
    (d >>= next) s = .ok b s' ↔ ∃ a mid, d s = .ok a mid ∧ next a mid = .ok b s' := by
  change EStateM.bind d next s = .ok b s' ↔ _
  unfold EStateM.bind
  cases d s with
  | ok a mid =>
    constructor
    · intro done
      exact ⟨a, mid, rfl, done⟩
    · intro ⟨_, _, same, done⟩
      cases same
      exact done
  | error field mid =>
    constructor
    · intro done
      cases done
    · intro ⟨_, _, same, _⟩
      cases same

/-- A reader that leaves a suffix of what it is given leaves the slice with that suffix. -/
theorem pop_eq_ok {field : Field} {read : FieldReader α} {a : α}
    (done : pop field read s = .ok a s')
    (suffix : ∀ rest, read s.data = .ok (a, rest) → ∃ front, s.data = front ++ rest) :
    read s.data = .ok (a, s'.data) ∧ s'.buffer = s.buffer := by
  unfold pop at done
  cases happens : read s.data with
  | error cause =>
    rw [happens] at done
    cases done
  | ok r =>
    obtain ⟨value, rest⟩ := r
    rw [happens] at done
    cases popped : s.popFront? (s.data.length - rest.length) with
    | none =>
      simp only [popped] at done
      cases done
    | some pair =>
      simp only [popped] at done
      cases done
      obtain ⟨_, _, remains, _, same⟩ := Slice.popFront?_eq_some popped
      obtain ⟨front, split⟩ := suffix rest happens
      refine ⟨?_, same⟩
      rw [remains, split, List.length_append, Nat.add_sub_cancel, List.drop_left]

theorem header_eq_ok {field : Field} {read : Reader α} {a : α}
    (done : header field read s = .ok a s')
    (suffix : ∀ rest, read s.data = some (a, rest) → ∃ front, s.data = front ++ rest) :
    read s.data = some (a, s'.data) ∧ s'.buffer = s.buffer := by
  obtain ⟨happens, same⟩ := pop_eq_ok done fun rest h => suffix rest (FieldReader.need_eq_ok_iff.1 h)
  exact ⟨FieldReader.need_eq_ok_iff.1 happens, same⟩

theorem header_of_append (field : Field) {read : Reader α} {a : α} {front rest : Bytes}
    (there : s.data = front ++ rest) (reads : read (front ++ rest) = some (a, rest)) :
    ∃ s', header field read s = .ok a s' ∧ s'.data = rest ∧ s'.buffer = s.buffer := by
  apply pop_of_ok _ there
  rw [FieldReader.need_eq_ok_iff, there, reads]

theorem routing_of_append {h : Header.SegmentRouting} {rest : Bytes}
    (there : s.data = h.encode ++ rest) :
    ∃ s', routing s = .ok h s' ∧ s'.data = rest ∧ s'.buffer = s.buffer := by
  apply pop_of_ok _ there
  rw [there, h.read_encode]

/-- Taking off all that is left always succeeds. -/
theorem remainder_eq (s : Slice) :
    ∃ front rest, remainder s = .ok front rest ∧ front.data = s.data ∧ rest.data = [] ∧
      front.buffer = s.buffer ∧ rest.buffer = s.buffer := by
  obtain ⟨front, rest, popped, taken, remains, buffers⟩ := Slice.popFront?_of_le (Nat.le_refl s.length)
  refine ⟨front, rest, ?_, ?_, ?_, buffers⟩
  · rw [remainder, popped]
  · rw [taken, ← s.length_data, List.take_length]
  · rw [remains, ← s.length_data, List.drop_length]

end Decoder

namespace Packet

theorem build_eq_ok {headers : Headers} {payload : Slice} {p : Packet}
    (built : build headers payload = .ok p) : p.headers = headers ∧ p.payload = payload := by
  unfold build at built
  split at built
  · cases built
    exact ⟨rfl, rfl⟩
  · cases built

theorem build_of_agree {headers : Headers} {payload : Slice} (agree : headers.Agree payload.data) :
    ∃ p, build headers payload = .ok p ∧ p.headers = headers ∧ p.payload = payload := by
  have none := Headers.conflict?_eq_none_iff.2 agree
  refine ⟨⟨headers, payload, none⟩, ?_, rfl, rfl⟩
  unfold build
  split
  · rfl
  next field found =>
    rw [none] at found
    cases found

theorem build_eq_error_iff {headers : Headers} {payload : Slice} {field : Field} :
    build headers payload = .error field ↔ headers.conflict? payload.data = some field := by
  unfold build
  split
  next none => simp [none]
  next other found => simp [found]

theorem agree (p : Packet) : p.headers.Agree p.payload.data :=
  Headers.conflict?_eq_none_iff.1 p.consistent

/-- A decoded slice was a frame of what was decoded, and nothing of it is left. -/
theorem frames_of_decode {s rest : Slice} {p : Packet} (done : decode s = .ok p rest) :
    p.headers.Frames p.payload.data s.data ∧ rest.data = [] ∧ p.payload.buffer = s.buffer := by
  unfold decode at done
  obtain ⟨ethernet, s₁, done₁, done⟩ := Decoder.bind_eq_ok_iff.1 done
  obtain ⟨ipv6, s₂, done₂, done⟩ := Decoder.bind_eq_ok_iff.1 done
  obtain ⟨_, _, got, done⟩ := Decoder.bind_eq_ok_iff.1 done
  cases got
  split at done
  · cases done
  · obtain ⟨routing, s₃, done₃, done⟩ := Decoder.bind_eq_ok_iff.1 done
    obtain ⟨ipv4, s₄, done₄, done⟩ := Decoder.bind_eq_ok_iff.1 done
    obtain ⟨udp, s₅, done₅, done⟩ := Decoder.bind_eq_ok_iff.1 done
    obtain ⟨payload, s₆, done₆, done⟩ := Decoder.bind_eq_ok_iff.1 done
    obtain ⟨read₁, same₁⟩ := Decoder.header_eq_ok done₁ fun _ h =>
      ⟨_, Header.Ethernet.read_eq_some_iff.1 h⟩
    obtain ⟨read₂, same₂⟩ := Decoder.header_eq_ok done₂ fun _ h =>
      ⟨_, Header.Ipv6.read_eq_some_iff.1 h⟩
    obtain ⟨read₃, same₃⟩ := Decoder.pop_eq_ok done₃ fun _ h =>
      ⟨_, Header.SegmentRouting.read_eq_ok_iff.1 h⟩
    obtain ⟨read₄, same₄⟩ := Decoder.header_eq_ok done₄ fun _ h =>
      let ⟨_, _, there⟩ := Header.Ipv4.read_eq_some_iff.1 h
      ⟨_, there⟩
    obtain ⟨read₅, same₅⟩ := Decoder.header_eq_ok done₅ fun _ h =>
      ⟨_, Header.Udp.read_eq_some_iff.1 h⟩
    obtain ⟨front, after, taken, all, nothing, same₆, _⟩ := Decoder.remainder_eq s₅
    obtain ⟨flags, flagged, there⟩ := Header.Ipv4.read_eq_some_iff.1 read₄
    rw [taken] at done₆
    cases done₆
    cases built : build ⟨ethernet, ipv6, routing, ipv4, udp⟩ payload with
    | error field =>
      simp only [built] at done
      cases done
    | ok q =>
      simp only [built] at done
      cases done
      obtain ⟨headers, slice⟩ := build_eq_ok built
      rw [headers, slice]
      refine ⟨⟨flags, flagged, ?_⟩, nothing, ?_⟩
      · rw [Header.Ethernet.read_eq_some_iff.1 read₁, Header.Ipv6.read_eq_some_iff.1 read₂,
          Header.SegmentRouting.read_eq_ok_iff.1 read₃, there,
          Header.Udp.read_eq_some_iff.1 read₅, all]
        simp only [Headers.encodeFlagged, List.append_assoc]
      · rw [same₆, same₅, same₄, same₃, same₂, same₁]

/-- A payload length that is not the length of what follows the outer header ends decoding there. -/
theorem decode_of_misfit {ethernet : Header.Ethernet} {ipv6 : Header.Ipv6} {behind : Bytes} {s : Slice}
    (there : s.data = ethernet.encode ++ (ipv6.encode ++ behind))
    (misfit : ipv6.payloadLength.toNat + 54 ≠ s.data.length) :
    ∃ rest, decode s = .error .payloadLength rest ∧ rest.data = behind ∧ rest.buffer = s.buffer := by
  obtain ⟨s₁, done₁, data₁, same₁⟩ :=
    Decoder.header_of_append .ethernet there (ethernet.read_encode _)
  obtain ⟨s₂, done₂, data₂, same₂⟩ := Decoder.header_of_append .ipv6 data₁ (ipv6.read_encode _)
  have got : (get : Decoder Slice) s₂ = .ok s₂ s₂ := rfl
  have differs : ipv6.payloadLength.toNat ≠ s₂.length := by
    rw [there, ← data₂, List.length_append, List.length_append, s₂.length_data,
      Header.Ethernet.length_encode, Header.Ipv6.length_encode, Header.Ethernet.size,
      Header.Ipv6.size] at misfit
    omega
  refine ⟨s₂, ?_, data₂, same₂.trans same₁⟩
  rw [decode, bind_of_ok done₁, bind_of_ok done₂, bind_of_ok got,
    if_pos differs]
  rfl

/-- A frame of headers whose payload length is right is taken off whole, and what has been read then
stands the checks of a packet or fails them. -/
theorem decode_of_frames {h : Headers} {payload : Bytes} {s : Slice} (frames : h.Frames payload s.data)
    (length : h.ipv6.payloadLength.toNat + 54 = s.data.length) :
    ∃ front rest : Slice, front.data = payload ∧ rest.data = [] ∧
      decode s = match build h front with
        | .ok p => .ok p rest
        | .error field => .error field rest := by
  obtain ⟨flags, flagged, same⟩ := frames
  simp only [Headers.encodeFlagged, List.append_assoc] at same
  obtain ⟨s₁, done₁, data₁, _⟩ := Decoder.header_of_append .ethernet same (h.ethernet.read_encode _)
  obtain ⟨s₂, done₂, data₂, _⟩ := Decoder.header_of_append .ipv6 data₁ (h.ipv6.read_encode _)
  obtain ⟨s₃, done₃, data₃, _⟩ := Decoder.routing_of_append data₂
  obtain ⟨s₄, done₄, data₄, _⟩ := Decoder.header_of_append .ipv4 data₃
    (Header.Ipv4.read_encodeFlagged flagged _)
  obtain ⟨s₅, done₅, data₅, _⟩ := Decoder.header_of_append .udp data₄ (h.udp.read_encode _)
  obtain ⟨front, rest, done₆, all, nothing, _⟩ := Decoder.remainder_eq s₅
  have behind : h.ipv6.payloadLength.toNat = s₂.length := by
    rw [same, ← data₂, List.length_append, List.length_append, s₂.length_data,
      Header.Ethernet.length_encode, Header.Ipv6.length_encode, Header.Ethernet.size,
      Header.Ipv6.size] at length
    omega
  have got : (get : Decoder Slice) s₂ = .ok s₂ s₂ := rfl
  refine ⟨front, rest, by rw [all, data₅], nothing, ?_⟩
  rw [decode, bind_of_ok done₁, bind_of_ok done₂, bind_of_ok got,
    if_neg (not_not_intro behind)]
  refine (bind_of_ok done₃ _).trans ?_
  rw [bind_of_ok done₄, bind_of_ok done₅, bind_of_ok done₆]
  cases build h front with
  | ok p => rfl
  | error field => rfl

theorem decode_of_agree {h : Headers} {payload : Bytes} {s : Slice} (agree : h.Agree payload)
    (frames : h.Frames payload s.data) :
    ∃ p rest, decode s = .ok p rest ∧ p.headers = h ∧ p.payload.data = payload ∧ rest.data = [] := by
  obtain ⟨front, rest, same, nothing, done⟩ := decode_of_frames frames (agree.payloadLength_eq frames)
  rw [← same] at agree
  obtain ⟨p, built, headers, slice⟩ := build_of_agree agree
  rw [built] at done
  exact ⟨p, rest, done, headers, by rw [slice, same], nothing⟩

/-- The checksum that a packet was checked to carry is the one that is written. -/
theorem withChecksum_eq (p : Packet) : p.headers.ipv4.withChecksum = p.headers.ipv4 := by
  rw [Header.Ipv4.withChecksum, ← p.agree.headerChecksum]

/-- Encoding fills its buffer exactly, so no step of it can run out of space. -/
theorem encode?_eq_some (p : Packet) :
    ∃ w, p.encode? = some w ∧ w.data = p.headers.encode ++ p.payload.data ∧ w.frontLength = 0 ∧
      w.backLength = 0 := by
  have payload := p.payload.length_data
  obtain ⟨zeros, nothing, after⟩ := Writer.views_zeroed p.headerLength p.payload.length
  have free : (Writer.zeroed p.headerLength p.payload.length).backLength = p.payload.length := by
    rw [← Writer.length_back, after, List.length_replicate]
  obtain ⟨w₀, done₀, front₀, data₀, back₀⟩ :=
    Writer.append?_of_le (w := Writer.zeroed p.headerLength p.payload.length)
      (by omega : p.payload.data.length ≤ _)
  have room₀ : w₀.frontLength = p.headers.udp.encode.length + (p.headers.ipv4.encode.length +
      (p.headers.routing.encode.length + (p.headers.ipv6.encode.length +
        (p.headers.ethernet.encode.length + 0)))) := by
    rw [← Writer.length_front, front₀, zeros, List.length_replicate, headerLength, Headers.size,
      Header.Udp.length_encode, Header.Ipv4.length_encode, Header.SegmentRouting.length_encode,
      Header.Ipv6.length_encode, Header.Ethernet.length_encode]
    omega
  obtain ⟨w₁, done₁, room₁, data₁, back₁⟩ := Writer.prepend?_of_room room₀
  obtain ⟨w₂, done₂, room₂, data₂, back₂⟩ := Writer.prepend?_of_room room₁
  obtain ⟨w₃, done₃, room₃, data₃, back₃⟩ := Writer.prepend?_of_room room₂
  obtain ⟨w₄, done₄, room₄, data₄, back₄⟩ := Writer.prepend?_of_room room₃
  obtain ⟨w₅, done₅, room₅, data₅, back₅⟩ := Writer.prepend?_of_room room₄
  refine ⟨w₅, ?_, ?_, room₅, ?_⟩
  · simp only [encode?, withChecksum_eq, done₀, done₁, done₂, done₃, done₄, done₅,
      Option.bind_eq_bind, Option.bind_some]
  · rw [data₅, data₄, data₃, data₂, data₁, data₀, nothing]
    simp only [Headers.encode, Headers.encodeFlagged, Header.Ipv4.encodeFlagged_flagsWord,
      List.nil_append, List.append_assoc]
  · rw [← Writer.length_back, back₅, back₄, back₃, back₂, back₁, back₀, after, List.length_drop,
      List.length_replicate]
    omega

theorem data_of_encode {p : Packet} {w : Writer} (encoded : p.encode? = some w) :
    w.data = p.headers.encode ++ p.payload.data := by
  obtain ⟨w', encoded', data, _⟩ := p.encode?_eq_some
  rw [encoded] at encoded'
  cases encoded'
  exact data

end Packet
end Srv6Traffic
