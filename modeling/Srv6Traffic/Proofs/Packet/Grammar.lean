import Srv6Traffic.Proofs.Packet.Layout

/-! The grammar of frames, over octets. What a decoder checks on header values, in six stages and ten
comparisons, is said here of numbered octets only, and the two are proved to accept the same. -/
namespace Srv6Traffic
open Layout OnesSum

namespace Layout

/-- The checksum of the IPv4 header with its checksum field zero and its reserved bit clear. -/
def headerChecksum (bytes : Bytes) : Nat :=
  65535 - sum ((((ipv4Header bytes).modify 6 Header.Ipv4.clearReserved).set 10 0).set 11 0)

/-- The UDP checksum over IPv4, taken with the checksum field zero; it is never zero itself. -/
def udpChecksum (bytes : Bytes) : Nat :=
  let checksum := 65535 - sum (pseudoHeader bytes ++ ((datagram bytes).set 6 0).set 7 0)
  if checksum = 0 then 65535 else checksum

end Layout

/-- What the headers need to be read at their places, each by itself. -/
structure Readable (bytes : Bytes) : Prop where
  long : udpStart bytes + 8 ≤ bytes.length
  version : octetAt bytes 14 / 16 = 6
  tunnelled : octetAt bytes 54 = 4
  extLength : octetAt bytes 55 = 2 * segmentCount bytes
  routingType : octetAt bytes 56 = 4
  segmentsLeft : octetAt bytes 57 ≤ octetAt bytes 58
  innerVersion : octetAt bytes (ipv4Start bytes) / 16 = 4
  innerLength : 20 ≤ ipv4Length bytes

/-- What the headers say about each other and about the length of the frame. -/
structure Coherent (bytes : Bytes) : Prop where
  etherType : wordAt bytes 12 = 0x86dd
  nextHeader : octetAt bytes 20 = 43
  payloadLength : wordAt bytes 18 = bytes.length - 54
  destination : cut bytes 38 16 = cut bytes (62 + 16 * octetAt bytes 57) 16
  protocol : octetAt bytes (ipv4Start bytes + 9) = 17
  totalLength : wordAt bytes (ipv4Start bytes + 2) = bytes.length - ipv4Start bytes
  headerChecksum : wordAt bytes (ipv4Start bytes + 10) = Layout.headerChecksum bytes
  udpLength : wordAt bytes (udpStart bytes + 4) = bytes.length - ipv4Start bytes - ipv4Length bytes
  udpChecksum : wordAt bytes (udpStart bytes + 6) = 0 ∨
    wordAt bytes (udpStart bytes + 6) = Layout.udpChecksum bytes

structure Grammar (bytes : Bytes) : Prop extends Readable bytes, Coherent bytes

namespace Headers
variable {h : Headers} {flags : UInt16} {payload bytes : Bytes}

theorem word_eq_iff {w c : UInt16} {n : Nat} (stands : n = w.toNat) : n = c.toNat ↔ w = c := by
  rw [stands, UInt16.toNat_inj]

theorem octet_eq_iff {b c : UInt8} {n : Nat} (stands : n = b.toNat) : n = c.toNat ↔ b = c := by
  rw [stands, UInt8.toNat_inj]

theorem address_eq_iff {a b : Ipv6Address} : a.octets.val = b.octets.val ↔ a = b := by
  cases a
  cases b
  rw [Ipv6Address.mk.injEq, Subtype.ext_iff]

namespace Placed

theorem readable (placed : h.Placed flags payload bytes) (tunnelled : h.routing.nextHeader = .ipInIp) :
    Readable bytes := by
  have stand := placed.standIn
  have long : bytes.length = h.size + payload.length := placed.frames.length
  have start := ipv4Start_eq placed.routing
  have inner := placed.ipv4Length_eq
  have size := h.size_eq
  have least : h.ipv4.size = 20 + h.ipv4.options.val.length := rfl
  refine ⟨?_, stand.ipv6.version, ?_, ?_, stand.routing.routingType, ?_, stand.ipv4.version, ?_⟩
  · rw [udpStart, start, inner]
    omega
  · have announced : octetAt bytes 54 = h.routing.nextHeader.number.toNat := stand.routing.nextHeader
    rw [announced, tunnelled]
    rfl
  · have ext : octetAt bytes 55 = h.routing.extLength.toNat := stand.routing.extLength
    rw [ext, h.routing.toNat_extLength, stand.segments]
  · have left : octetAt bytes 57 = h.routing.segmentsLeft.toNat := stand.routing.segmentsLeft
    have last : octetAt bytes 58 = h.routing.lastEntry.toNat := stand.routing.lastEntry
    rw [left, last]
    exact UInt8.le_iff_toNat_le.1 h.routing.left_le_lastEntry
  · omega

theorem destination_iff (placed : h.Placed flags payload bytes) :
    cut bytes 38 16 = cut bytes (62 + 16 * octetAt bytes 57) 16 ↔
      h.ipv6.destination = h.routing.activeSegment := by
  have stand := placed.standIn
  have outer : cut bytes 38 16 = h.ipv6.destination.octets.val := stand.ipv6.destination
  have left : octetAt bytes 57 = h.routing.segmentsLeft.toNat := stand.routing.segmentsLeft
  have active : cut bytes (62 + 16 * h.routing.segmentsLeft.toNat) 16 =
      h.routing.activeSegment.octets.val := stand.routing.segments _ h.routing.left_lt
  rw [outer, left, active, address_eq_iff]

/-- Lengths that are compared layer by layer come to lengths that reach to the end of the frame. -/
theorem lengths_iff (placed : h.Placed flags payload bytes) :
    (wordAt bytes 18 = bytes.length - 54 ∧
        wordAt bytes (ipv4Start bytes + 2) = bytes.length - ipv4Start bytes ∧
        wordAt bytes (udpStart bytes + 4) = bytes.length - ipv4Start bytes - ipv4Length bytes) ↔
      (h.ipv6.payloadLength.toNat = h.routing.size + h.ipv4.totalLength.toNat ∧
        h.ipv4.totalLength.toNat = h.ipv4.size + h.udp.length.toNat ∧
        h.udp.length.toNat = Header.Udp.size + payload.length) := by
  have stand := placed.standIn
  have outer : wordAt bytes 18 = h.ipv6.payloadLength.toNat := stand.ipv6.payloadLength
  have long : bytes.length = h.size + payload.length := placed.frames.length
  have size := h.size_eq
  have udp : Header.Udp.size = 8 := rfl
  rw [outer, stand.ipv4.totalLength, stand.udp.length, ipv4Start_eq placed.routing,
    placed.ipv4Length_eq]
  omega

theorem headerChecksum_eq (placed : h.Placed flags payload bytes) :
    Layout.headerChecksum bytes = h.ipv4.headerChecksum.toNat := by
  rw [Layout.headerChecksum, placed.ipv4Header_eq, Header.Ipv4.blank_encodeFlagged placed.flagged,
    Header.Ipv4.toNat_headerChecksum]

theorem udpChecksum_eq (placed : h.Placed flags payload bytes) : Layout.udpChecksum bytes =
    (h.udp.checksumFor h.ipv4.source h.ipv4.destination payload).toNat := by
  have blank : ((h.udp.encode ++ payload).set 6 0).set 7 0 =
      { h.udp with checksum := 0 }.encode ++ payload := by
    rw [Header.Udp.encode, Header.Udp.encode, Word.encode_zero]
    rfl
  have covered : sum (pseudoHeader bytes ++ ((datagram bytes).set 6 0).set 7 0) =
      h.udp.blankSum h.ipv4.source h.ipv4.destination payload := by
    rw [placed.pseudoHeader_eq, placed.datagram_eq, blank]
    rfl
  have le : h.udp.blankSum h.ipv4.source h.ipv4.destination payload ≤ 65535 := fold_le _
  rw [Layout.udpChecksum, covered, Header.Udp.toNat_checksumFor]
  by_cases ones : h.udp.blankSum h.ipv4.source h.ipv4.destination payload = 65535
  · rw [if_pos ones, ones]
    rfl
  · rw [if_neg ones]
    exact if_neg (by omega)

theorem coherent_iff (placed : h.Placed flags payload bytes)
    (tunnelled : h.routing.nextHeader = .ipInIp) : Coherent bytes ↔ h.Agree payload := by
  have stand := placed.standIn
  have etherType : wordAt bytes 12 = 0x86dd ↔ _ :=
    word_eq_iff (c := Header.Ethernet.typeIpv6) stand.ethernet.etherType
  have nextHeader : octetAt bytes 20 = 43 ↔ _ :=
    octet_eq_iff (c := Header.NextHeader.routing.number) stand.ipv6.nextHeader
  have protocol : octetAt bytes (ipv4Start bytes + 9) = 17 ↔ _ :=
    octet_eq_iff (c := Header.Ipv4.protocolUdp) stand.ipv4.protocol
  have headerChecksum := word_eq_iff (c := h.ipv4.headerChecksum) stand.ipv4.checksum
  have noChecksum : wordAt bytes (udpStart bytes + 6) = 0 ↔ _ :=
    word_eq_iff (c := 0) stand.udp.checksum
  have udpChecksum := word_eq_iff stand.udp.checksum
    (c := h.udp.checksumFor h.ipv4.source h.ipv4.destination payload)
  rw [← placed.headerChecksum_eq] at headerChecksum
  rw [← placed.udpChecksum_eq] at udpChecksum
  have checksum := or_congr noChecksum udpChecksum
  constructor
  · intro c
    obtain ⟨outer, inner, last⟩ :=
      placed.lengths_iff.1 ⟨c.payloadLength, c.totalLength, c.udpLength⟩
    exact ⟨etherType.1 c.etherType, nextHeader.1 c.nextHeader,
      placed.destination_iff.1 c.destination, outer, tunnelled, protocol.1 c.protocol,
      headerChecksum.1 c.headerChecksum, inner, last, checksum.1 c.udpChecksum⟩
  · intro a
    obtain ⟨outer, inner, last⟩ :=
      placed.lengths_iff.2 ⟨a.payloadLength, a.totalLength, a.length⟩
    exact ⟨etherType.2 a.etherType, nextHeader.2 a.routed, outer,
      placed.destination_iff.2 a.destination, protocol.2 a.protocol, inner,
      headerChecksum.2 a.headerChecksum, last, checksum.2 a.checksum⟩

end Placed

/-- Readable octets are the headers of some frame, one after the other. -/
theorem exists_placed (readable : Readable bytes) : ∃ (h : Headers) (flags : UInt16) (payload : Bytes),
    h.Placed flags payload bytes ∧ h.routing.nextHeader = .ipInIp := by
  have long := readable.long
  have start : ipv4Start bytes = 54 + 8 + 16 * (octetAt bytes 58 + 1) := rfl
  have inner : udpStart bytes = ipv4Start bytes + ipv4Length bytes := rfl
  have words : ipv4Length bytes = 4 * (octetAt bytes (ipv4Start bytes) % 16) := rfl
  have least := readable.innerLength
  obtain ⟨ethernet, at₁⟩ := Header.Ethernet.exists_at (by omega : 0 + 14 ≤ bytes.length)
  obtain ⟨ipv6, at₂⟩ :=
    Header.Ipv6.exists_at (by omega : 14 + 40 ≤ bytes.length) readable.version
  obtain ⟨routing, tunnelled, at₃⟩ := Header.SegmentRouting.exists_at (p := .ipInIp) (i := 54)
    readable.tunnelled readable.routingType readable.segmentsLeft readable.extLength
    (by omega : 54 + 8 + 16 * (octetAt bytes 58 + 1) ≤ bytes.length)
  obtain ⟨ipv4, flags, flagged, at₄⟩ :=
    Header.Ipv4.exists_at readable.innerVersion (by omega) (by omega)
  obtain ⟨udp, at₅⟩ := Header.Udp.exists_at long
  exact ⟨⟨ethernet, ipv6, routing, ipv4, udp⟩, flags, _, ⟨flagged, at₁, at₂, at₃, at₄, at₅, rfl⟩,
    tunnelled⟩

end Headers

namespace Packet

/-- The decoder accepts just what the grammar describes, and gives each field from its place. -/
theorem decode_iff_grammar (s : Slice) :
    ((∃ p rest, decode s = .ok p rest) ↔ Grammar s.data) ∧
      ∀ p rest, decode s = .ok p rest → p.headers.StandIn p.payload.data s.data := by
  refine ⟨⟨?_, ?_⟩, ?_⟩
  · intro ⟨p, rest, done⟩
    obtain ⟨flags, placed⟩ := (frames_of_decode done).1.placed
    have tunnelled := p.agree.tunnelled
    exact ⟨placed.readable tunnelled, (placed.coherent_iff tunnelled).2 p.agree⟩
  · intro grammar
    obtain ⟨h, flags, payload, placed, tunnelled⟩ := Headers.exists_placed grammar.toReadable
    have agree := (placed.coherent_iff tunnelled).1 grammar.toCoherent
    obtain ⟨p, rest, done, _⟩ := decode_of_agree agree placed.frames
    exact ⟨p, rest, done⟩
  · intro p rest done
    obtain ⟨flags, placed⟩ := (frames_of_decode done).1.placed
    exact placed.standIn

theorem grammar_sample : Grammar Headers.sampleFrame := by
  obtain ⟨p, rest, done, _⟩ := decode_sample
  have grammar := (decode_iff_grammar (Slice.ofBytes 0 Headers.sampleFrame)).1.1 ⟨p, rest, done⟩
  rw [Slice.data_ofBytes] at grammar
  exact grammar

end Packet
end Srv6Traffic
