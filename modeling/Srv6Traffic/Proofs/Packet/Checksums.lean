import Srv6Traffic.Proofs.Packet.Layout

/-! Checksums of frames, over the octets as they stand. A frame that is sent verifies. A received one
is compared by the decoder with the checksum of the header it has read, where the reserved bit is gone.
So a frame is accepted with the bit set although its checksum does not cover it, and this is the only
way for one to fail. -/
namespace Srv6Traffic
open Layout OnesSum

namespace Headers.Placed
variable {h : Headers} {flags : UInt16} {payload bytes : Bytes}

theorem sum_ipv4Header (placed : h.Placed flags payload bytes) (agree : h.Agree payload) :
    sum (ipv4Header bytes) = if flags.toNat < 32768 then 65535 else 32768 := by
  rw [placed.ipv4Header_eq, Header.Ipv4.sum_encodeFlagged placed.flagged agree.headerChecksum]

theorem sum_datagram (placed : h.Placed flags payload bytes) (agree : h.Agree payload) :
    wordAt bytes (udpStart bytes + 6) = 0 ∨ sum (pseudoHeader bytes ++ datagram bytes) = 65535 := by
  have stands : wordAt bytes (udpStart bytes + 6) = h.udp.checksum.toNat :=
    placed.standIn.udp.checksum
  cases agree.checksum with
  | inl none =>
    left
    rw [stands, none]
    rfl
  | inr checked =>
    right
    rw [placed.covered_eq]
    exact Header.Udp.sum_covered checked

end Headers.Placed

namespace Packet

/-- Both checksums verify over the octets as they stand, unless no UDP checksum was taken. -/
structure Verified (bytes : Bytes) : Prop where
  header : sum (ipv4Header bytes) = 65535
  datagram : wordAt bytes (udpStart bytes + 6) = 0 ∨
    sum (pseudoHeader bytes ++ Layout.datagram bytes) = 65535

/-- What a packet is encoded to verifies: the reserved bit is never set in what is sent. -/
theorem verified_of_encode {p : Packet} {w : Writer} (encoded : p.encode? = some w) :
    Verified w.data := by
  have placed := placed_of_encode encoded
  have clear : p.headers.ipv4.flagsWord.toNat < 32768 := by
    have flagged := placed.flagged
    unfold Header.Ipv4.Flagged at flagged
    omega
  exact ⟨by rw [placed.sum_ipv4Header p.agree, if_pos clear], placed.sum_datagram p.agree⟩

variable {s rest : Slice} {p : Packet}

theorem sum_ipv4Header (done : decode s = .ok p rest) : sum (ipv4Header s.data) =
    if octetAt s.data (ipv4Start s.data + 6) < 128 then 65535 else 32768 := by
  obtain ⟨flags, placed⟩ := (frames_of_decode done).1.placed
  have word := Header.Ipv4.wordAt_flags placed.ipv4
  rw [wordAt] at word
  have low := octetAt_lt s.data (ipv4Start s.data + 6 + 1)
  rw [placed.sum_ipv4Header p.agree]
  by_cases clear : octetAt s.data (ipv4Start s.data + 6) < 128
  · rw [if_pos clear, if_pos (by omega)]
  · rw [if_neg clear, if_neg (by omega)]

theorem sum_datagram (done : decode s = .ok p rest) : wordAt s.data (udpStart s.data + 6) = 0 ∨
    sum (pseudoHeader s.data ++ datagram s.data) = 65535 := by
  obtain ⟨flags, placed⟩ := (frames_of_decode done).1.placed
  exact placed.sum_datagram p.agree

/-- An accepted frame verifies just if its reserved bit is clear, and its UDP part does in any case. -/
theorem verified_iff_reserved_clear (done : decode s = .ok p rest) :
    (Verified s.data ↔ octetAt s.data (ipv4Start s.data + 6) < 128) ∧
      (wordAt s.data (udpStart s.data + 6) = 0 ∨
        sum (pseudoHeader s.data ++ datagram s.data) = 65535) := by
  have header := sum_ipv4Header done
  have udp := sum_datagram done
  refine ⟨⟨?_, ?_⟩, udp⟩
  · intro verified
    by_cases clear : octetAt s.data (ipv4Start s.data + 6) < 128
    · exact clear
    · rw [if_neg clear, verified.header] at header
      cases header
  · intro clear
    rw [if_pos clear] at header
    exact ⟨header, udp⟩

theorem verified_iff_sample : ∃ (s rest : Slice) (p : Packet), decode s = .ok p rest ∧
    s.data = Headers.sampleFrame ∧ ¬ Verified s.data := by
  obtain ⟨p, rest, done, _⟩ := decode_sample
  refine ⟨_, rest, p, done, Slice.data_ofBytes 0 _, ?_⟩
  rw [(verified_iff_reserved_clear done).1, Slice.data_ofBytes]
  decide +kernel

/-- A frame with one segment and five octets of payload, whose reserved bit is set. -/
def reservedFrame : Bytes := [
  0xff, 0xff, 0xff, 0xff, 0xff, 0xff, 0x00, 0x00, 0x00, 0x00, 0x00, 0x00, 0x86, 0xdd,
  0x60, 0x00, 0x00, 0x00, 0x00, 0x39, 0x2b, 0x40,
  0xfc, 0x00, 0x00, 0x01, 0x00, 0x00, 0x00, 0x00, 0x00, 0x00, 0x00, 0x00, 0x00, 0x00, 0x00, 0x01,
  0xfc, 0x00, 0x00, 0x00, 0x00, 0x00, 0x00, 0x00, 0x00, 0x00, 0x00, 0x00, 0x00, 0x00, 0x00, 0x00,
  0x04, 0x02, 0x04, 0x00, 0x00, 0x00, 0x00, 0x00,
  0xfc, 0x00, 0x00, 0x00, 0x00, 0x00, 0x00, 0x00, 0x00, 0x00, 0x00, 0x00, 0x00, 0x00, 0x00, 0x00,
  0x45, 0x00, 0x00, 0x21, 0x00, 0x01, 0x80, 0x00, 0x40, 0x11, 0x66, 0xc7,
  0x0a, 0x01, 0x00, 0x01, 0x0a, 0x02, 0x00, 0x01,
  0x03, 0xe8, 0x07, 0xd0, 0x00, 0x0d, 0x9c, 0x45, 0x68, 0x65, 0x6c, 0x6c, 0x6f]

/-- The decoder takes this frame, and the words of its IPv4 header add up to `0x8000`. -/
theorem reservedFrame_not_verified :
    (∃ p rest, decode (Slice.ofBytes 0 reservedFrame) = .ok p rest) ∧ ¬ Verified reservedFrame := by
  constructor
  · have accepted : (match decode (Slice.ofBytes 0 reservedFrame) with
      | .ok _ _ => true
      | .error _ _ => false) = true := by decide +kernel
    cases done : decode (Slice.ofBytes 0 reservedFrame) with
    | ok p rest => exact ⟨p, rest, rfl⟩
    | error field rest =>
      rw [done] at accepted
      cases accepted
  · intro verified
    have lone : sum (ipv4Header reservedFrame) = 0x8000 := by decide +kernel
    rw [verified.header] at lone
    cases lone

end Packet
end Srv6Traffic
