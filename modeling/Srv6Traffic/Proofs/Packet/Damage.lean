import Srv6Traffic.Proofs.Header.Damage
import Srv6Traffic.Proofs.Packet.Agreement

/-! Frames with one octet damaged on the way. Wherever nothing but a checksum guards the octet, the frame
is read to its end and then refused for that checksum. -/
namespace Srv6Traffic

namespace Headers
variable {h : Headers} {payload : Bytes}

/-- Places of a frame that only the checksum of the IPv4 header guards. -/
def InHeaderSum (h : Headers) (i : Nat) : Prop :=
  ∃ k, i = 54 + h.routing.size + k ∧ k < h.ipv4.size ∧ Header.Ipv4.Guarded k

/-- Places of a frame that only the UDP checksum guards. -/
def InDatagramSum (h : Headers) (i : Nat) : Prop :=
  ∃ k, i = 54 + h.routing.size + h.ipv4.size + k ∧ Header.Udp.Guarded k

/-- With an IPv4 header in place of its own that differs in what its checksum guards, the first thing
wrong is the checksum. -/
theorem Agree.conflict?_ipv4 (agree : h.Agree payload) {ipv4 : Header.Ipv4}
    (totalLength : ipv4.totalLength = h.ipv4.totalLength) (protocol : ipv4.protocol = h.ipv4.protocol)
    (stale : ipv4.checksum ≠ ipv4.headerChecksum) (payload' : Bytes) :
    { h with ipv4 }.conflict? payload' = some .headerChecksum := by
  have length := agree.payloadLength
  rw [← totalLength] at length
  have udp := protocol.trans agree.protocol
  simp [conflict?, agree.etherType, agree.routed, agree.destination, agree.tunnelled, length, udp, stale]

theorem Agree.conflict?_udp (agree : h.Agree payload) {udp : Header.Udp} {payload' : Bytes}
    (length : udp.length = h.udp.length) (long : payload'.length = payload.length)
    (taken : udp.checksum ≠ 0)
    (stale : udp.checksum ≠ udp.checksumFor h.ipv4.source h.ipv4.destination payload') :
    { h with udp }.conflict? payload' = some .checksum := by
  have inner := agree.totalLength
  have last := agree.length
  rw [last] at inner
  rw [← length] at last
  rw [← long] at inner last
  simp [conflict?, agree.etherType, agree.routed, agree.destination, agree.tunnelled,
    agree.payloadLength, agree.protocol, ← agree.headerChecksum, inner, last, taken, stale]

end Headers

namespace Packet
variable {p : Packet} {s : Slice} {i : Nat}

/-- The three outer headers, as they stand in front of the IPv4 header. -/
def outer (p : Packet) : Bytes :=
  p.headers.ethernet.encode ++ (p.headers.ipv6.encode ++ p.headers.routing.encode)

theorem length_outer (p : Packet) : p.outer.length = 54 + p.headers.routing.size := by
  simp only [outer, List.length_append, Header.Ethernet.length_encode, Header.Ipv6.length_encode,
    Header.SegmentRouting.length_encode, Header.Ethernet.size, Header.Ipv6.size]
  omega

theorem data_of_encode_outer {w : Writer} (encoded : p.encode? = some w) :
    w.data = p.outer ++ (p.headers.ipv4.encode ++ (p.headers.udp.encode ++ p.payload.data)) := by
  rw [data_of_encode encoded, encode_append_eq]
  simp only [outer, List.append_assoc]

/-- Headers and payload that are found wrong in the first place at one field are refused for it, with
all of the frame gone. -/
theorem decode_of_conflict {h : Headers} {payload : Bytes} {field : Field}
    (frames : h.Frames payload s.data) (length : h.ipv6.payloadLength.toNat + 54 = s.data.length)
    (conflict : h.conflict? payload = some field) :
    ∃ rest, decode s = .error field rest ∧ rest.data = [] := by
  obtain ⟨front, rest, same, nothing, done⟩ := decode_of_frames frames length
  rw [← same, ← build_eq_error_iff] at conflict
  exact ⟨rest, by rw [done, conflict], nothing⟩

theorem decode_of_ipv4_damage {w : Writer} (encoded : p.encode? = some w)
    (differ : DifferAt i w.data s.data) (inside : p.headers.InHeaderSum i) :
    ∃ rest, decode s = .error .headerChecksum rest ∧ rest.data = [] := by
  obtain ⟨k, rfl, short, guarded⟩ := inside
  have long := differ.length_eq
  rw [data_of_encode_outer encoded, ← p.length_outer] at differ
  obtain ⟨behind, split, differ₁⟩ := differ.of_append_left
  obtain ⟨header, same, differ₂⟩ := differ₁.of_append_right (by rwa [Header.Ipv4.length_encode])
  obtain ⟨ipv4, flags, flagged, received, size, totalLength, protocol, stale⟩ :=
    Header.Ipv4.exists_damaged p.agree.headerChecksum differ₂ guarded
  have frames : { p.headers with ipv4 }.Frames p.payload.data s.data := by
    refine ⟨flags, flagged, ?_⟩
    rw [split, same, received]
    simp only [Headers.encodeFlagged, outer, List.append_assoc]
  refine decode_of_conflict frames ?_ (p.agree.conflict?_ipv4 totalLength protocol stale _)
  rw [long]
  exact p.agree.payloadLength_eq (placed_of_encode encoded).frames

theorem decode_of_udp_damage {w : Writer} (encoded : p.encode? = some w)
    (differ : DifferAt i w.data s.data) (taken : p.headers.udp.checksum ≠ 0)
    (inside : p.headers.InDatagramSum i) :
    ∃ rest, decode s = .error .checksum rest ∧ rest.data = [] := by
  obtain ⟨k, rfl, guarded⟩ := inside
  have long := differ.length_eq
  have place : (p.outer ++ p.headers.ipv4.encode).length =
      54 + p.headers.routing.size + p.headers.ipv4.size := by
    rw [List.length_append, length_outer, Header.Ipv4.length_encode]
  rw [data_of_encode_outer encoded, ← List.append_assoc, ← place] at differ
  obtain ⟨behind, split, differ₁⟩ := differ.of_append_left
  obtain ⟨udp, payload, received, sized, length, checksum, stale⟩ :=
    Header.Udp.exists_damaged (p.agree.checksum.resolve_left taken) differ₁ guarded
  rw [← checksum] at taken
  have frames : { p.headers with udp }.Frames payload s.data := by
    refine ⟨_, p.headers.ipv4.flagged_flagsWord, ?_⟩
    rw [split, received]
    simp only [Headers.encodeFlagged, outer, Header.Ipv4.encodeFlagged_flagsWord, List.append_assoc]
  refine decode_of_conflict frames ?_ (p.agree.conflict?_udp length sized taken stale)
  rw [long]
  exact p.agree.payloadLength_eq (placed_of_encode encoded).frames

/-- No damage to a single octet goes unnoticed where only a checksum guards it: the frame is refused for
that checksum, after all of it has been read. -/
theorem single_damage_detected (p : Packet) : ∃ w, p.encode? = some w ∧ ∀ (s : Slice) (i : Nat),
    s.data.length = w.data.length → s.data[i]? ≠ w.data[i]? →
    (∀ k, k ≠ i → s.data[k]? = w.data[k]?) →
      (p.headers.udp.checksum ≠ 0 → p.headers.InDatagramSum i →
        ∃ rest, decode s = .error .checksum rest ∧ rest.data = []) ∧
      (p.headers.InHeaderSum i →
        ∃ rest, decode s = .error .headerChecksum rest ∧ rest.data = []) := by
  obtain ⟨w, encoded, _⟩ := p.encode?_eq_some
  refine ⟨w, encoded, ?_⟩
  intro s i length there elsewhere
  have differ := DifferAt.of_getElem? length there elsewhere
  constructor
  · intro taken inside
    exact decode_of_udp_damage encoded differ taken inside
  · intro inside
    exact decode_of_ipv4_damage encoded differ inside

/-- The last octet of the payload is damaged, or the first one of the options. -/
theorem single_damage_sample : ∃ (p : Packet) (w : Writer) (rest rest' : Slice),
    p.headers = Headers.sample ∧ p.encode? = some w ∧
      decode (Slice.ofBytes 1 (w.data.set 130 0)) = .error .checksum rest ∧ rest.data = [] ∧
      decode (Slice.ofBytes 1 (w.data.set 114 0)) = .error .headerChecksum rest' ∧ rest'.data = [] := by
  obtain ⟨p, _, _, headers, payload, _⟩ := decode_sample
  obtain ⟨w, encoded, detected⟩ := single_damage_detected p
  have data : w.data = Headers.sample.encode ++ Headers.samplePayload := by
    rw [data_of_encode encoded, headers, payload]
  have length (i : Nat) : (Slice.ofBytes 1 (w.data.set i 0)).data.length = w.data.length := by simp
  have elsewhere (i k : Nat) (away : k ≠ i) :
      (Slice.ofBytes 1 (w.data.set i 0)).data[k]? = w.data[k]? := by
    rw [Slice.data_ofBytes, List.getElem?_set_ne away.symm]
  have last := (detected (Slice.ofBytes 1 (w.data.set 130 0)) 130 (length 130)
    (by rw [Slice.data_ofBytes, data]; decide +kernel) (elsewhere 130)).1
  have option := (detected (Slice.ofBytes 1 (w.data.set 114 0)) 114 (length 114)
    (by rw [Slice.data_ofBytes, data]; decide +kernel) (elsewhere 114)).2
  rw [headers] at last option
  obtain ⟨rest, refused, nothing⟩ := last (by decide) ⟨12, by decide, .inr (by decide)⟩
  obtain ⟨rest', refused', nothing'⟩ := option
    ⟨20, by decide, by decide, .inr (.inr (.inr (.inr (.inr (by decide)))))⟩
  exact ⟨p, w, rest, rest', headers, encoded, refused, nothing, refused', nothing'⟩

end Packet
end Srv6Traffic
