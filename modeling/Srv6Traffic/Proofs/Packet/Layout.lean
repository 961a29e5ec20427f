import Srv6Traffic.Proofs.Header.Checksum
import Srv6Traffic.Proofs.Packet.Frame

/-! Places in a frame, computed from its octets alone. Two octets decide them all: the last entry of
the routing header and the length of the IPv4 header. In the octets of a frame every header is found
at its place, whole. -/
namespace Srv6Traffic

namespace Layout

def segmentCount (bytes : Bytes) : Nat := octetAt bytes 58 + 1
def ipv4Start (bytes : Bytes) : Nat := 62 + 16 * segmentCount bytes
def ipv4Length (bytes : Bytes) : Nat := 4 * (octetAt bytes (ipv4Start bytes) % 16)
def udpStart (bytes : Bytes) : Nat := ipv4Start bytes + ipv4Length bytes

/-- The octets of the IPv4 header, exactly as they stand. -/
def ipv4Header (bytes : Bytes) : Bytes := cut bytes (ipv4Start bytes) (ipv4Length bytes)

/-- The UDP header and the payload, exactly as they stand. -/
def datagram (bytes : Bytes) : Bytes := bytes.drop (udpStart bytes)

/-- The addresses, the protocol behind a zero octet, and the UDP length. -/
def pseudoHeader (bytes : Bytes) : Bytes :=
  cut bytes (ipv4Start bytes + 12) 4 ++ (cut bytes (ipv4Start bytes + 16) 4 ++
    0 :: 17 :: cut bytes (udpStart bytes + 4) 2)

end Layout

namespace Headers
open Layout
variable {h : Headers} {flags : UInt16} {payload bytes : Bytes}

/-- Each header is found at its place and ends where the next one starts. -/
structure Placed (h : Headers) (flags : UInt16) (payload bytes : Bytes) : Prop where
  flagged : h.ipv4.Flagged flags
  ethernet : bytes.drop 0 = h.ethernet.encode ++ bytes.drop 14
  ipv6 : bytes.drop 14 = h.ipv6.encode ++ bytes.drop 54
  routing : bytes.drop 54 = h.routing.encode ++ bytes.drop (ipv4Start bytes)
  ipv4 : bytes.drop (ipv4Start bytes) = h.ipv4.encodeFlagged flags ++ bytes.drop (udpStart bytes)
  udp : bytes.drop (udpStart bytes) = h.udp.encode ++ bytes.drop (udpStart bytes + 8)
  payload : bytes.drop (udpStart bytes + 8) = payload

theorem segmentCount_eq {rest : Bytes} (found : bytes.drop 54 = h.routing.encode ++ rest) :
    segmentCount bytes = h.routing.segments.length := by
  have last : octetAt bytes 58 = h.routing.lastEntry.toNat :=
    (Header.SegmentRouting.standsAt found).lastEntry
  rw [segmentCount, last, h.routing.toNat_lastEntry]

theorem ipv4Start_eq {rest : Bytes} (found : bytes.drop 54 = h.routing.encode ++ rest) :
    ipv4Start bytes = 54 + h.routing.size := by
  rw [ipv4Start, segmentCount_eq found, Header.SegmentRouting.size,
    Header.SegmentRouting.fixedSize, Header.SegmentRouting.segmentSize, ← Nat.add_assoc]

theorem placed_of_eq (flagged : h.ipv4.Flagged flags)
    (same : bytes = h.encodeFlagged flags ++ payload) : h.Placed flags payload bytes := by
  simp only [encodeFlagged, List.append_assoc] at same
  have at₁ : bytes.drop 0 = _ := same
  have at₂ : bytes.drop 14 = _ := drop_of_drop at₁ h.ethernet.length_encode
  have at₃ : bytes.drop 54 = _ := drop_of_drop at₂ h.ipv6.length_encode
  have at₄ := drop_of_drop at₃ h.routing.length_encode
  rw [← ipv4Start_eq at₃] at at₄
  have size : ipv4Length bytes = h.ipv4.size := (Header.Ipv4.standsAt flagged at₄).size
  have at₅ := drop_of_drop at₄ (h.ipv4.length_encodeFlagged flags)
  rw [← size] at at₅
  have at₆ : bytes.drop (udpStart bytes + 8) = _ := drop_of_drop at₅ h.udp.length_encode
  refine ⟨flagged, ?_, ?_, ?_, ?_, ?_, at₆⟩
  · rw [at₂]
    exact at₁
  · rw [at₃]
    exact at₂
  · rw [at₄]
    exact at₃
  · rw [udpStart, at₅]
    exact at₄
  · rw [at₆]
    exact at₅

theorem Frames.placed (frames : h.Frames payload bytes) : ∃ flags, h.Placed flags payload bytes := by
  obtain ⟨flags, flagged, same⟩ := frames
  exact ⟨flags, placed_of_eq flagged same⟩

theorem Placed.frames (placed : h.Placed flags payload bytes) : h.Frames payload bytes := by
  refine ⟨flags, placed.flagged, ?_⟩
  have whole : bytes = bytes.drop 0 := rfl
  rw [whole, placed.ethernet, placed.ipv6, placed.routing, placed.ipv4, placed.udp, placed.payload]
  simp only [encodeFlagged, List.append_assoc]

/-- Clearing the reserved bit of a frame as received gives the frame as it is sent. -/
theorem Frames.modify_reserved (frames : h.Frames payload bytes) :
    bytes.modify (54 + h.routing.size + 6) Header.Ipv4.clearReserved = h.encode ++ payload := by
  obtain ⟨flags, flagged, same⟩ := frames
  let front := h.ethernet.encode ++ (h.ipv6.encode ++ h.routing.encode)
  have split (word : UInt16) : h.encodeFlagged word ++ payload =
      front ++ (h.ipv4.encodeFlagged word ++ (h.udp.encode ++ payload)) := by
    simp only [encodeFlagged, front, List.append_assoc]
  have place : front.length = 54 + h.routing.size := by
    simp only [front, List.length_append, Header.Ethernet.length_encode,
      Header.Ipv6.length_encode, Header.SegmentRouting.length_encode, Header.Ethernet.size,
      Header.Ipv6.size]
    omega
  rw [same, encode, split, split, ← place, modify_append,
    Header.Ipv4.modify_encodeFlagged flagged, Header.Ipv4.encodeFlagged_flagsWord]

/-- Every field of every header stands in its place, and the payload follows the last of them. -/
structure StandIn (h : Headers) (payload bytes : Bytes) : Prop where
  ethernet : h.ethernet.StandsAt bytes 0
  ipv6 : h.ipv6.StandsAt bytes 14
  routing : h.routing.StandsAt bytes 54
  segments : h.routing.segments.length = segmentCount bytes
  ipv4 : h.ipv4.StandsAt bytes (ipv4Start bytes)
  udp : h.udp.StandsAt bytes (udpStart bytes)
  payload : payload = bytes.drop (udpStart bytes + 8)

namespace Placed

theorem standIn (placed : h.Placed flags payload bytes) : h.StandIn payload bytes where
  ethernet := Header.Ethernet.standsAt placed.ethernet
  ipv6 := Header.Ipv6.standsAt placed.ipv6
  routing := Header.SegmentRouting.standsAt placed.routing
  segments := (segmentCount_eq placed.routing).symm
  ipv4 := Header.Ipv4.standsAt placed.flagged placed.ipv4
  udp := Header.Udp.standsAt placed.udp
  payload := placed.payload.symm

theorem ipv4Length_eq (placed : h.Placed flags payload bytes) : ipv4Length bytes = h.ipv4.size :=
  placed.standIn.ipv4.size

theorem ipv4Header_eq (placed : h.Placed flags payload bytes) :
    ipv4Header bytes = h.ipv4.encodeFlagged flags := by
  rw [ipv4Header, placed.ipv4Length_eq]
  exact (cut_of_drop placed.ipv4 (h.ipv4.length_encodeFlagged flags)).1

theorem datagram_eq (placed : h.Placed flags payload bytes) :
    datagram bytes = h.udp.encode ++ payload := by
  rw [datagram, placed.udp, placed.payload]

theorem pseudoHeader_eq (placed : h.Placed flags payload bytes) :
    pseudoHeader bytes = h.udp.pseudoHeader h.ipv4.source h.ipv4.destination := by
  have found := placed.udp
  simp only [Header.Udp.encode, List.append_assoc] at found
  have found := drop_of_drop found (Word.length_encode _)
  have found := drop_of_drop found (Word.length_encode _)
  obtain ⟨length, _⟩ := cut_of_drop found (Word.length_encode _)
  rw [pseudoHeader, placed.standIn.ipv4.source, placed.standIn.ipv4.destination, length]
  rfl

theorem covered_eq (placed : h.Placed flags payload bytes) :
    pseudoHeader bytes ++ datagram bytes =
      h.udp.covered h.ipv4.source h.ipv4.destination payload := by
  rw [placed.pseudoHeader_eq, placed.datagram_eq]
  rfl

end Placed

/-- Headers with a segment that has been passed, options, a traffic class and an odd payload. -/
def sample : Headers where
  ethernet := ⟨.broadcast, .zero, 0x86dd⟩
  ipv6 := ⟨0xb8, 0x12345, 77, 43, 64, .ofGroups 0xfc00 0 0 0 0 0 0 1,
    .ofGroups 0xfc00 0 0 0 0 0 0 2⟩
  routing := ⟨.ipInIp, 0, 0x80, 0x1234,
    [.ofGroups 0xfc00 0 0 0 0 0 0 2, .ofGroups 0xfc00 0 0 0 0 0 0 3], by decide, by decide⟩
  ipv4 := ⟨0x2e, 1, 37, 7, true, false, 0, 64, 17, 8963, .ofOctets 10 1 0 1, .ofOctets 10 2 0 1,
    ⟨[1, 1, 1, 0], by decide⟩⟩
  udp := ⟨1000, 2000, 13, 40005⟩

def samplePayload : Bytes := [104, 101, 108, 108, 111]

/-- The sample as it may be received, with the reserved bit set. -/
def sampleFrame : Bytes := sample.encodeFlagged 0xc000 ++ samplePayload

theorem agree_sample : sample.Agree samplePayload := conflict?_eq_none_iff.1 (by decide +kernel)

theorem frames_sample : sample.Frames samplePayload sampleFrame :=
  ⟨0xc000, show _ % 32768 = _ by decide, rfl⟩

end Headers

/-- What is sent carries the flags of the header itself, with the reserved bit clear. -/
theorem Packet.placed_of_encode {p : Packet} {w : Writer} (encoded : p.encode? = some w) :
    p.headers.Placed p.headers.ipv4.flagsWord p.payload.data w.data :=
  Headers.placed_of_eq p.headers.ipv4.flagged_flagsWord (data_of_encode encoded)

theorem Packet.decode_sample : ∃ p rest, decode (Slice.ofBytes 0 Headers.sampleFrame) = .ok p rest ∧
    p.headers = Headers.sample ∧ p.payload.data = Headers.samplePayload ∧ rest.data = [] := by
  apply decode_of_agree Headers.agree_sample
  rw [Slice.data_ofBytes]
  exact Headers.frames_sample

end Srv6Traffic
