import Srv6Traffic.Header.Udp
import Srv6Traffic.Proofs.Header.Ipv4
import Srv6Traffic.Proofs.Wire.OnesTotal

/-! The two checksums as sums over octets. A checksum makes the sum of what it covers all ones; the
IPv4 one covers the header as it is sent, so the reserved bit of a received header is not in it. -/
namespace Srv6Traffic.Header
open OnesSum

namespace Ipv4

theorem toNat_headerChecksum (h : Ipv4) :
    h.headerChecksum.toNat = 65535 - sum { h with checksum := 0 }.encode := by
  rw [headerChecksum, toNat_complement, toNat_addBytes_zero]

/-- Flags and checksum are two words of the header, and what the others add up to is not their affair. -/
theorem exists_total (h : Ipv4) : ∃ others, ∀ flags checksum : UInt16,
    total ({ h with checksum }.encodeFlagged flags) = others + flags.toNat + checksum.toNat := by
  have source : h.source.octets.val.length % 2 = 0 := by rw [h.source.octets.property]
  have destination : h.destination.octets.val.length % 2 = 0 := by rw [h.destination.octets.property]
  refine ⟨256 * (UInt8.ofNat (64 + h.size / 4)).toNat +
    (UInt8.ofNat (4 * h.dscp.toNat + h.ecn.toNat)).toNat + h.totalLength.toNat +
    h.identification.toNat + 256 * h.timeToLive.toNat + h.protocol.toNat +
    total h.source.octets.val + total h.destination.octets.val + total h.options.val, ?_⟩
  intro flags checksum
  have size : { h with checksum }.size = h.size := rfl
  simp only [encodeFlagged, size, total, total_encode, total_append source,
    total_append destination]
  omega

/-- The header as received sums up to all ones, or to a lone top bit if the reserved bit is set. -/
theorem sum_encodeFlagged {h : Ipv4} {flags : UInt16} (flagged : h.Flagged flags)
    (checked : h.checksum = h.headerChecksum) :
    sum (h.encodeFlagged flags) = if flags.toNat < 32768 then 65535 else 32768 := by
  have := flags.toNat_lt
  obtain ⟨others, totals⟩ := h.exists_total
  have received := totals flags h.checksum
  have sent : total { h with checksum := 0 }.encode = others + h.flagsWord.toNat := totals h.flagsWord 0
  have complement : h.checksum.toNat = 65535 - fold (others + h.flagsWord.toNat) := by
    rw [checked, toNat_headerChecksum, sum, sent]
  have right := fold_add_complement (others + h.flagsWord.toNat)
  rw [← complement] at right
  unfold Flagged at flagged
  rw [sum, received]
  by_cases clear : flags.toNat < 32768
  · rw [if_pos clear]
    have same : flags.toNat = h.flagsWord.toNat := by omega
    rw [same, right]
  · rw [if_neg clear]
    have more : others + flags.toNat + h.checksum.toNat =
        others + h.flagsWord.toNat + h.checksum.toNat + 32768 := by omega
    rw [more, ← fold_fold_add, right]
    decide

end Ipv4

namespace Udp
variable {source destination : Ipv4Address} {payload : Bytes}

/-- The octets that the checksum is taken over. -/
def covered (h : Udp) (source destination : Ipv4Address) (payload : Bytes) : Bytes :=
  h.pseudoHeader source destination ++ (h.encode ++ payload)

theorem length_pseudoHeader (h : Udp) (source destination : Ipv4Address) :
    (h.pseudoHeader source destination).length = 12 := by
  simp only [pseudoHeader, List.length_append, List.length_cons, source.octets.property,
    destination.octets.property, Word.length_encode]

/-- What the checksum complements: the sum with the checksum field zero. -/
def blankSum (h : Udp) (source destination : Ipv4Address) (payload : Bytes) : Nat :=
  sum ({ h with checksum := 0 }.covered source destination payload)

theorem toNat_checksumFor (h : Udp) (source destination : Ipv4Address) (payload : Bytes) :
    (h.checksumFor source destination payload).toNat =
      if h.blankSum source destination payload = 65535 then 65535
      else 65535 - h.blankSum source destination payload := by
  have even : (h.pseudoHeader source destination ++ { h with checksum := 0 }.encode).length % 2 = 0 := by
    rw [List.length_append, length_pseudoHeader, length_encode]
    rfl
  have covers : h.pseudoHeader source destination ++ { h with checksum := 0 }.encode ++ payload =
      { h with checksum := 0 }.covered source destination payload := List.append_assoc ..
  have value := toNat_complement (addBytes (addBytes 0
    (h.pseudoHeader source destination ++ { h with checksum := 0 }.encode)) payload)
  rw [toNat_addBytes_addBytes even, covers, ← blankSum] at value
  have le : h.blankSum source destination payload ≤ 65535 := fold_le _
  unfold checksumFor
  by_cases ones : h.blankSum source destination payload = 65535
  · rw [ones] at value
    rw [if_pos ones, if_pos (UInt16.toNat_inj.1 value)]
    rfl
  · rw [if_neg ones, if_neg, value]
    intro none
    rw [none] at value
    change 0 = 65535 - _ at value
    omega

/-- A computed checksum is never the zero that says that none was taken. -/
theorem checksumFor_ne_zero (h : Udp) (source destination : Ipv4Address) (payload : Bytes) :
    h.checksumFor source destination payload ≠ 0 := by
  unfold checksumFor
  dsimp only
  split
  · decide
  · assumption

theorem total_covered (h : Udp) (source destination : Ipv4Address) (payload : Bytes) :
    total (h.covered source destination payload) =
      total ({ h with checksum := 0 }.covered source destination payload) + h.checksum.toNat := by
  have even (g : Udp) : (g.pseudoHeader source destination).length % 2 = 0 := by
    rw [length_pseudoHeader]
  have same : { h with checksum := 0 }.pseudoHeader source destination =
    h.pseudoHeader source destination := rfl
  have zero : (0 : UInt16).toNat = 0 := rfl
  simp only [covered, encode, total_append (even _), List.append_assoc, total_encode, same, zero]
  omega

theorem sum_covered {h : Udp} (checked : h.checksum = h.checksumFor source destination payload) :
    sum (h.covered source destination payload) = 65535 := by
  have value := toNat_checksumFor h source destination payload
  rw [← checked] at value
  rw [sum, total_covered, value]
  by_cases ones : h.blankSum source destination payload = 65535
  · rw [if_pos ones, ← fold_fold_add, ← sum, ← blankSum, ones]
    decide
  · rw [if_neg ones]
    exact fold_add_complement _

end Udp
end Srv6Traffic.Header
