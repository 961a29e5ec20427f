import Srv6Traffic.Packet.Basic

/-! Frames on the wire. A decoder takes headers off the front of a slice; one that fails names a
field, and leaves the slice behind the last header that it could read. -/
namespace Srv6Traffic

abbrev Decoder := EStateM Field Slice

namespace Decoder

/-- Takes off what a reader reads. If the slice cannot give that up, the error names `field`. -/
def pop {α : Type} (field : Field) (read : FieldReader α) : Decoder α := fun slice =>
  match read slice.data with
  | .error cause => .error cause slice
  | .ok (value, rest) =>
    match slice.popFront? (slice.data.length - rest.length) with
    | none => .error field slice
    | some (_, slice) => .ok value slice

def header {α : Type} (field : Field) (read : Reader α) : Decoder α :=
  pop field (FieldReader.need field read)

def routing : Decoder Header.SegmentRouting := pop .segments Header.SegmentRouting.read

/-- Takes off everything that is left, as a slice of the same buffer. -/
def remainder : Decoder Slice := fun slice =>
  match slice.popFront? slice.length with
  | none => .error .payload slice
  | some (front, slice) => .ok front slice

/-- A pop that succeeds leaves the rest, in the same buffer. -/
theorem pop_of_ok {α : Type} {field : Field} {read : FieldReader α} {s : Slice} {a : α}
    {front rest : Bytes} (h : read s.data = .ok (a, rest)) (split : s.data = front ++ rest) :
    ∃ s', pop field read s = .ok a s' ∧ s'.data = rest ∧ s'.buffer = s.buffer := by
  have length : s.data.length - rest.length = front.length := by
    rw [split, List.length_append, Nat.add_sub_cancel]
  have le : front.length ≤ s.length := by
    rw [← s.length_data, split, List.length_append]
    exact Nat.le_add_right ..
  obtain ⟨_, s', popped, _, remains, _, same⟩ := Slice.popFront?_of_le le
  refine ⟨s', ?_, ?_, same⟩
  · simp only [pop, h, length, popped]
  · rw [remains, split, List.drop_left]

end Decoder

namespace Packet

def decode : Decoder Packet := do
  let ethernet ← Decoder.header .ethernet Header.Ethernet.read
  let ipv6 ← Decoder.header .ipv6 Header.Ipv6.read
  if ipv6.payloadLength.toNat ≠ (← get).length then throw .payloadLength
  let routing ← Decoder.routing
  let ipv4 ← Decoder.header .ipv4 Header.Ipv4.read
  let udp ← Decoder.header .udp Header.Udp.read
  let payload ← Decoder.remainder
  match build ⟨ethernet, ipv6, routing, ipv4, udp⟩ payload with
  | .ok packet => return packet
  | .error field => throw field

/-- The frame, written from the payload outwards. The IPv4 header gets its checksum anew. Only a lack of space can
get in the way: each header is first written into memory of its own, which grows as needed, so that no header can
fail to be written. -/
def encode? (p : Packet) : Option Writer := do
  let w ← (Writer.zeroed p.headerLength p.payload.length).append? p.payload.data
  let w ← w.prepend? p.headers.udp.encode
  let w ← w.prepend? p.headers.ipv4.withChecksum.encode
  let w ← w.prepend? p.headers.routing.encode
  let w ← w.prepend? p.headers.ipv6.encode
  w.prepend? p.headers.ethernet.encode

end Packet
end Srv6Traffic
