import Srv6Traffic.Proofs.Packet.Advance
import Srv6Traffic.Proofs.Packet.Checksums
import Srv6Traffic.Proofs.Template.Construction

/-! What is sent. A frame built from a template is decoded to what the template says, and the checksums
of every frame verify over its own octets. -/
namespace Srv6Traffic
open Layout OnesSum

namespace Template
variable {t : Template} {serial : Nat} {length : Int64} {f : Frame}

/-- The frame that is built decodes to the packet that the template describes. Decoding goes through
the buffer of the frame and gives it back as it was. -/
theorem decode_built (built : (t.build serial length).value = .ok f) :
    ∃ (p : Packet) (rest : Slice), Packet.decode f.bytes = .ok p rest ∧ f.decode = .ok p ∧
      t.Configured f.padding p.headers ∧
      t.segments.getLast? = some p.headers.ipv6.destination ∧
      p.headers.ipv6.payloadLength.toNat = f.length - 54 ∧
      p.headers.routing.segmentsLeft.toNat = t.segments.length - 1 ∧
      p.headers.routing.lastEntry.toNat = t.segments.length - 1 ∧
      p.headers.udp.checksum ≠ 0 ∧
      p.payload.data = .replicate f.padding t.filler ∧ f.bytes = .whole rest.buffer := by
  obtain ⟨_, p, carries⟩ := carries_of_build built
  obtain ⟨q, rest, done, headers, payload, _⟩ := Packet.decode_of_agree p.agree carries.frames
  obtain ⟨_, _, kept⟩ := Packet.decode_advances f.bytes
  have decoded : f.decode = .ok q := by rw [Frame.decode, done]
  have c := carries.configured
  have size := carries.length_eq
  have last := p.headers.routing.toNat_lastEntry
  rw [c.routing.segments] at last
  rw [t.unpaddedLength_eq] at size
  rw [done] at kept
  refine ⟨q, rest, done, decoded, ?_, ?_, ?_, ?_, ?_, ?_, ?_, ?_⟩
  · rw [headers]
    exact c
  · rw [headers, c.outerDestination]
    exact c.routing.activeSegment
  · rw [headers, c.payloadLength]
    omega
  · rw [headers, c.routing.segmentsLeft]
    omega
  · rw [headers]
    omega
  · rw [headers, c.checksum]
    exact Header.Udp.checksumFor_ne_zero _ _ _ _
  · rw [payload]
    exact carries.filled
  · change rest.buffer = f.bytes.buffer at kept
    rw [kept]
    exact carries.whole

/-- Two segments and an odd number of octets of padding. -/
theorem decode_built_sample : ∃ (f : Frame) (p : Packet),
    (build { segments := [.ofGroups 0xfc00 9 0 0 0 0 0 9, .ofGroups 0xfc00 8 0 0 0 0 0 8] }
      7 133).value = .ok f ∧ f.decode = .ok p ∧ p.payload.data = .replicate 11 0x78 ∧
    p.headers.ipv6.destination = .ofGroups 0xfc00 8 0 0 0 0 0 8 := by
  let t : Template := { segments := [.ofGroups 0xfc00 9 0 0 0 0 0 9, .ofGroups 0xfc00 8 0 0 0 0 0 8] }
  obtain ⟨f, built⟩ := t.exists_frame 7 133 (by decide) (by decide) (by decide)
  obtain ⟨p, _, _, decoded, _, last, _, _, _, _, filled, _⟩ := decode_built built
  have padding : f.padding = 11 := (carries_of_build built).1.trans (by decide)
  rw [padding] at filled
  exact ⟨f, p, built, decoded, filled, (Option.some.inj last).symm⟩

end Template

/-- The checksums of what is sent verify over its octets, wherever the packet comes from. A frame that
is built from a template always has a UDP checksum: its field never holds the zero that says no. -/
theorem emitted_checksums_verify :
    (∀ p : Packet, ∃ w, p.encode? = some w ∧
      ipv4Start w.data = 54 + p.headers.routing.size ∧ ipv4Length w.data = p.headers.ipv4.size ∧
      sum (ipv4Header w.data) = 65535 ∧
      (p.headers.udp.checksum ≠ 0 → sum (pseudoHeader w.data ++ datagram w.data) = 65535)) ∧
    ∀ (t : Template) (serial : Nat) (length : Int64) (f : Frame),
      (t.build serial length).value = .ok f →
        wordAt f.data (udpStart f.data + 6) ≠ 0 ∧ sum (ipv4Header f.data) = 65535 ∧
          sum (pseudoHeader f.data ++ datagram f.data) = 65535 := by
  constructor
  · intro p
    obtain ⟨w, encoded, _⟩ := p.encode?_eq_some
    have placed := Packet.placed_of_encode encoded
    have verified := Packet.verified_of_encode encoded
    refine ⟨w, encoded, Headers.ipv4Start_eq placed.routing, placed.ipv4Length_eq,
      verified.header, ?_⟩
    intro taken
    refine verified.datagram.resolve_left fun zero => taken ?_
    rw [placed.standIn.udp.checksum] at zero
    exact UInt16.toNat_inj.1 zero
  · intro t serial length f built
    obtain ⟨_, p, carries⟩ := Template.carries_of_build built
    have verified := Packet.verified_of_encode carries.written
    rw [← carries.data_writer] at verified
    have taken : wordAt f.data (udpStart f.data + 6) ≠ 0 := by
      rw [carries.placed.standIn.udp.checksum, carries.configured.checksum]
      intro zero
      exact Header.Udp.checksumFor_ne_zero _ _ _ _ (UInt16.toNat_inj.1 zero)
    exact ⟨taken, verified.header, verified.datagram.resolve_left taken⟩

/-- A packet with options and an odd payload, and the standard template with one octet of padding. -/
theorem emitted_checksums_sample : ∃ (p : Packet) (w : Writer) (f : Frame),
    p.headers = Headers.sample ∧ p.headers.udp.checksum ≠ 0 ∧ p.encode? = some w ∧
      sum (pseudoHeader w.data ++ datagram w.data) = 65535 ∧
      (Template.build {} 0 107).value = .ok f ∧ wordAt f.data (udpStart f.data + 6) ≠ 0 := by
  obtain ⟨p, _, _, headers, _⟩ := Packet.decode_sample
  obtain ⟨f, built⟩ := Template.exists_frame {} 0 107 (by decide) (by decide) (by decide)
  obtain ⟨packets, frames⟩ := emitted_checksums_verify
  obtain ⟨w, encoded, _, _, _, verifies⟩ := packets p
  have taken : p.headers.udp.checksum ≠ 0 := by
    rw [headers]
    decide
  exact ⟨p, w, f, headers, taken, encoded, verifies taken, built, (frames _ _ _ f built).1⟩

end Srv6Traffic
