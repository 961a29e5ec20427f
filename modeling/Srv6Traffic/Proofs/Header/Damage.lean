import Srv6Traffic.Proofs.Header.Checksum
import Srv6Traffic.Proofs.Header.Fixed
import Srv6Traffic.Proofs.Wire.Change

/-! Headers with one octet damaged on the way. Where the octet is not part of a length, a type or the
version, a header is read all the same, and only its checksum is there to tell. It tells every time. -/
namespace Srv6Traffic.Header
open OnesSum

namespace Ipv4

/-- Places in a header that only the checksum guards: the service octet, the identification, the low
octet of flags and fragment offset, the time to live, the checksum, the addresses and the options. -/
def Guarded (k : Nat) : Prop := k = 1 ∨ k = 4 ∨ k = 5 ∨ k = 7 ∨ k = 8 ∨ 10 ≤ k

theorem flagsWord_lt (h : Ipv4) : h.flagsWord.toNat < 32768 := by
  have same : h.flagsWord.toNat % 32768 = h.flagsWord.toNat := h.flagged_flagsWord
  omega

theorem sum_encode {h : Ipv4} (checked : h.checksum = h.headerChecksum) : sum h.encode = 65535 := by
  rw [← encodeFlagged_flagsWord, sum_encodeFlagged h.flagged_flagsWord checked,
    if_pos h.flagsWord_lt]

/-- A header damaged at such a place is read like one of the same size, length and protocol, whose
reserved bit is clear. -/
theorem exists_alike {h : Ipv4} {k : Nat} {bytes : Bytes} (differ : DifferAt k h.encode bytes)
    (guarded : Guarded k) :
    ∃ (h' : Ipv4) (flags : UInt16), h'.Flagged flags ∧ flags.toNat < 32768 ∧
      bytes = h'.encodeFlagged flags ∧ h'.size = h.size ∧ h'.totalLength = h.totalLength ∧
      h'.protocol = h.protocol := by
  unfold Guarded at guarded
  have sent : h.encode.drop 0 = h.encodeFlagged h.flagsWord ++ [] := (List.append_nil _).symm
  have stands := standsAt h.flagged_flagsWord sent
  have long : bytes.length = h.size := by rw [differ.length_eq, h.length_encode]
  have first : octetAt bytes 0 = octetAt h.encode 0 := differ.octetAt_eq (by omega)
  have version : octetAt bytes 0 / 16 = 4 := by rw [first, stands.version]
  have size : 4 * (octetAt bytes 0 % 16) = h.size := by rw [first, stands.size]
  have least : h.size = 20 + h.options.val.length := rfl
  obtain ⟨h', flags, flagged, received⟩ := exists_at (i := 0) version (by omega) (by omega)
  have stands' := standsAt flagged received
  have flagsSent : 256 * octetAt h.encode 6 + octetAt h.encode 7 = h.flagsWord.toNat :=
    wordAt_flags sent
  have flagsReceived : 256 * octetAt bytes 6 + octetAt bytes 7 = flags.toNat := wordAt_flags received
  have nothing : bytes.drop (0 + 4 * (octetAt bytes 0 % 16)) = [] :=
    List.drop_eq_nil_of_le (by omega)
  rw [nothing, List.append_nil, List.drop_zero] at received
  refine ⟨h', flags, flagged, ?_, received, ?_, ?_, ?_⟩
  · have clear := h.flagsWord_lt
    have high : octetAt bytes 6 = octetAt h.encode 6 := differ.octetAt_eq (by omega)
    have low := octetAt_lt bytes 7
    omega
  · rw [← stands'.size, ← size]
  · apply UInt16.toNat_inj.1
    rw [← stands'.totalLength, ← stands.totalLength, differ.wordAt_eq (by omega) (by omega)]
  · apply UInt8.toNat_inj.1
    rw [← stands'.protocol, ← stands.protocol, differ.octetAt_eq (by omega)]

/-- The checksum of a header damaged at such a place does not suit it. -/
theorem exists_damaged {h : Ipv4} {k : Nat} {bytes : Bytes} (checked : h.checksum = h.headerChecksum)
    (differ : DifferAt k h.encode bytes) (guarded : Guarded k) :
    ∃ (h' : Ipv4) (flags : UInt16), h'.Flagged flags ∧ bytes = h'.encodeFlagged flags ∧
      h'.size = h.size ∧ h'.totalLength = h.totalLength ∧ h'.protocol = h.protocol ∧
      h'.checksum ≠ h'.headerChecksum := by
  obtain ⟨h', flags, flagged, clear, received, alike⟩ := exists_alike differ guarded
  obtain ⟨size, totalLength, protocol⟩ := alike
  refine ⟨h', flags, flagged, received, size, totalLength, protocol, ?_⟩
  intro checked'
  have right := sum_encodeFlagged flagged checked'
  rw [if_pos clear, ← received] at right
  exact sum_ne_of_differAt differ ((sum_encode checked).trans right.symm)

end Ipv4

namespace Udp
variable {source destination : Ipv4Address} {payload : Bytes}

/-- Places in a header and what follows it that only the checksum guards: ports and payload. -/
def Guarded (k : Nat) : Prop := k < 4 ∨ 8 ≤ k

/-- A datagram damaged at such a place is read like one of the same lengths and checksum. -/
theorem exists_alike {h : Udp} {k : Nat} {bytes : Bytes} (differ : DifferAt k (h.encode ++ payload) bytes)
    (guarded : Guarded k) :
    ∃ (h' : Udp) (payload' : Bytes), bytes = h'.encode ++ payload' ∧
      payload'.length = payload.length ∧ h'.length = h.length ∧ h'.checksum = h.checksum := by
  unfold Guarded at guarded
  have sent : (h.encode ++ payload).drop 0 = h.encode ++ payload := rfl
  have long : bytes.length = 8 + payload.length := by
    rw [differ.length_eq, List.length_append, length_encode, size]
  obtain ⟨h', received⟩ := exists_at (i := 0) (by omega : 0 + 8 ≤ bytes.length)
  have stands := standsAt sent
  have stands' := standsAt received
  refine ⟨h', bytes.drop 8, received, ?_, ?_, ?_⟩
  · rw [List.length_drop, long, Nat.add_sub_cancel_left]
  · apply UInt16.toNat_inj.1
    rw [← stands'.length, ← stands.length, differ.wordAt_eq (by omega) (by omega)]
  · apply UInt16.toNat_inj.1
    rw [← stands'.checksum, ← stands.checksum, differ.wordAt_eq (by omega) (by omega)]

/-- The checksum of a datagram damaged at such a place does not suit it. -/
theorem exists_damaged {h : Udp} {k : Nat} {bytes : Bytes}
    (checked : h.checksum = h.checksumFor source destination payload)
    (differ : DifferAt k (h.encode ++ payload) bytes) (guarded : Guarded k) :
    ∃ (h' : Udp) (payload' : Bytes), bytes = h'.encode ++ payload' ∧
      payload'.length = payload.length ∧ h'.length = h.length ∧ h'.checksum = h.checksum ∧
      h'.checksum ≠ h'.checksumFor source destination payload' := by
  obtain ⟨h', payload', received, long, length, checksum⟩ := exists_alike differ guarded
  refine ⟨h', payload', received, long, length, checksum, ?_⟩
  intro checked'
  -- Of the header the pseudo-header holds the length only, so it is the same on both sides.
  have pseudo : h'.pseudoHeader source destination = h.pseudoHeader source destination := by
    rw [pseudoHeader, pseudoHeader, length]
  have covered : DifferAt (12 + k) (h.covered source destination payload)
      (h'.covered source destination payload') := by
    have behind := differ.append_left (h.pseudoHeader source destination)
    rw [length_pseudoHeader, received] at behind
    rw [Udp.covered, Udp.covered, pseudo]
    exact behind
  exact sum_ne_of_differAt covered ((sum_covered checked).trans (sum_covered checked').symm)

end Udp
end Srv6Traffic.Header
