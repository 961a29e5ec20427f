import Srv6Traffic.Header.Ethernet
import Srv6Traffic.Header.Ipv6
import Srv6Traffic.Header.Udp
import Srv6Traffic.Proofs.Wire.Place
import Srv6Traffic.Proofs.Wire.Reading

/-! The headers of one fixed size. Each has exactly one form on the wire: reading gives a header just
when the octets are that header's encoding, so nothing of them is lost. -/
namespace Srv6Traffic.Header
variable {bytes rest : Bytes} {i : Nat}

namespace Ethernet

theorem read_eq_some_iff {h : Ethernet} :
    read bytes = some (h, rest) ↔ bytes = h.encode ++ rest := by
  constructor
  · intro done
    obtain ⟨destination, _, first, done⟩ := Reader.bind_eq_some_iff.1 done
    obtain ⟨source, _, second, done⟩ := Reader.bind_eq_some_iff.1 done
    obtain ⟨etherType, _, third, done⟩ := Reader.bind_eq_some_iff.1 done
    obtain ⟨rfl, rfl⟩ := Reader.pure_eq_some_iff.1 done
    rw [Reader.octets_eq_some_iff.1 first, Reader.octets_eq_some_iff.1 second,
      Reader.word_eq_some_iff.1 third]
    simp [encode]
  · intro same
    rw [same]
    exact read_encode h rest

/-- The fields stand in their places in the octets from `i` on. -/
structure StandsAt (h : Ethernet) (bytes : Bytes) (i : Nat) : Prop where
  destination : cut bytes i 6 = h.destination.octets.val
  source : cut bytes (i + 6) 6 = h.source.octets.val
  etherType : wordAt bytes (i + 12) = h.etherType.toNat

theorem standsAt {h : Ethernet} (found : bytes.drop i = h.encode ++ rest) : h.StandsAt bytes i := by
  simp only [encode, List.append_assoc] at found
  obtain ⟨destination, found⟩ := cut_of_drop found h.destination.octets.property
  obtain ⟨source, found⟩ := cut_of_drop found h.source.octets.property
  obtain ⟨etherType, _⟩ := wordAt_of_drop found
  exact ⟨destination, source, etherType⟩

theorem exists_at (long : i + 14 ≤ bytes.length) :
    ∃ h : Ethernet, bytes.drop i = h.encode ++ bytes.drop (i + 14) := by
  obtain ⟨destination, first⟩ := exists_octets 6 (by omega : i + 6 ≤ bytes.length)
  obtain ⟨source, second⟩ := exists_octets 6 (by omega : i + 6 + 6 ≤ bytes.length)
  obtain ⟨etherType, third⟩ := exists_word (by omega : i + 6 + 6 + 2 ≤ bytes.length)
  refine ⟨⟨⟨destination⟩, ⟨source⟩, etherType⟩, ?_⟩
  rw [first, second, third]
  simp only [encode, List.append_assoc]

end Ethernet

namespace Ipv6

/-- Version, class and label are packed into four octets, and unpacking them loses nothing. -/
theorem encode_unpacked {first : UInt8} (version : first.toNat / 16 = 6) (second : UInt8)
    (flowLow payloadLength : UInt16) (nextHeader hopLimit : UInt8)
    (source destination : Ipv6Address) :
    encode {
      trafficClass := .ofNat (16 * (first.toNat % 16) + second.toNat / 16)
      flowLabel := .ofNat 20 (65536 * (second.toNat % 16) + flowLow.toNat)
      payloadLength, nextHeader, hopLimit, source, destination } =
    first :: second :: (Word.encode flowLow ++ (Word.encode payloadLength ++
      nextHeader :: hopLimit :: (source.octets.val ++ destination.octets.val))) := by
  have := first.toNat_lt
  have := second.toNat_lt
  have := flowLow.toNat_lt
  have trafficClass : (UInt8.ofNat (16 * (first.toNat % 16) + second.toNat / 16)).toNat =
      16 * (first.toNat % 16) + second.toNat / 16 := by
    rw [UInt8.toNat_ofNat']
    omega
  have flowLabel : (BitVec.ofNat 20 (65536 * (second.toNat % 16) + flowLow.toNat)).toNat =
      65536 * (second.toNat % 16) + flowLow.toNat := by
    rw [BitVec.toNat_ofNat]
    omega
  have octet₁ : UInt8.ofNat (96 + (16 * (first.toNat % 16) + second.toNat / 16) / 16) = first := by
    apply UInt8.toNat_inj.1
    rw [UInt8.toNat_ofNat']
    omega
  have octet₂ : UInt8.ofNat (16 * ((16 * (first.toNat % 16) + second.toNat / 16) % 16) +
      (65536 * (second.toNat % 16) + flowLow.toNat) / 65536) = second := by
    apply UInt8.toNat_inj.1
    rw [UInt8.toNat_ofNat']
    omega
  have word : UInt16.ofNat (65536 * (second.toNat % 16) + flowLow.toNat) = flowLow := by
    apply UInt16.toNat_inj.1
    rw [UInt16.toNat_ofNat']
    omega
  simp only [encode, trafficClass, flowLabel, octet₁, octet₂, word]

theorem read_eq_some_iff {h : Ipv6} :
    read bytes = some (h, rest) ↔ bytes = h.encode ++ rest := by
  constructor
  · intro done
    obtain ⟨first, _, read₁, done⟩ := Reader.bind_eq_some_iff.1 done
    obtain ⟨second, _, read₂, done⟩ := Reader.bind_eq_some_iff.1 done
    obtain ⟨flowLow, _, read₃, done⟩ := Reader.bind_eq_some_iff.1 done
    obtain ⟨payloadLength, _, read₄, done⟩ := Reader.bind_eq_some_iff.1 done
    obtain ⟨nextHeader, _, read₅, done⟩ := Reader.bind_eq_some_iff.1 done
    obtain ⟨hopLimit, _, read₆, done⟩ := Reader.bind_eq_some_iff.1 done
    obtain ⟨source, _, read₇, done⟩ := Reader.bind_eq_some_iff.1 done
    obtain ⟨destination, _, read₈, done⟩ := Reader.bind_eq_some_iff.1 done
    obtain ⟨_, _, checked, done⟩ := Reader.bind_eq_some_iff.1 done
    obtain ⟨version, rfl⟩ := Reader.check_eq_some_iff.1 checked
    obtain ⟨rfl, rfl⟩ := Reader.pure_eq_some_iff.1 done
    rw [encode_unpacked (of_decide_eq_true version), Reader.octet_eq_some_iff.1 read₁,
      Reader.octet_eq_some_iff.1 read₂, Reader.word_eq_some_iff.1 read₃,
      Reader.word_eq_some_iff.1 read₄, Reader.octet_eq_some_iff.1 read₅,
      Reader.octet_eq_some_iff.1 read₆, Reader.octets_eq_some_iff.1 read₇,
      Reader.octets_eq_some_iff.1 read₈]
    simp
  · intro same
    rw [same]
    exact read_encode h rest

/-- The fields stand in their places in the octets from `i` on, behind the version number. -/
structure StandsAt (h : Ipv6) (bytes : Bytes) (i : Nat) : Prop where
  version : octetAt bytes i / 16 = 6
  trafficClass : octetAt bytes i % 16 * 16 + octetAt bytes (i + 1) / 16 = h.trafficClass.toNat
  flowLabel : octetAt bytes (i + 1) % 16 * 65536 + wordAt bytes (i + 2) = h.flowLabel.toNat
  payloadLength : wordAt bytes (i + 4) = h.payloadLength.toNat
  nextHeader : octetAt bytes (i + 6) = h.nextHeader.toNat
  hopLimit : octetAt bytes (i + 7) = h.hopLimit.toNat
  source : cut bytes (i + 8) 16 = h.source.octets.val
  destination : cut bytes (i + 24) 16 = h.destination.octets.val

theorem standsAt {h : Ipv6} (found : bytes.drop i = h.encode ++ rest) : h.StandsAt bytes i := by
  have := h.trafficClass.toNat_lt
  have := h.flowLabel.isLt
  simp only [encode, List.append_assoc, List.cons_append] at found
  obtain ⟨first, found⟩ := octetAt_of_drop found
  obtain ⟨second, found⟩ := octetAt_of_drop found
  obtain ⟨flowLow, found⟩ := wordAt_of_drop found
  obtain ⟨payloadLength, found⟩ := wordAt_of_drop found
  obtain ⟨nextHeader, found⟩ := octetAt_of_drop found
  obtain ⟨hopLimit, found⟩ := octetAt_of_drop found
  obtain ⟨source, found⟩ := cut_of_drop found h.source.octets.property
  obtain ⟨destination, _⟩ := cut_of_drop found h.destination.octets.property
  rw [UInt8.toNat_ofNat'] at first second
  rw [UInt16.toNat_ofNat'] at flowLow
  refine ⟨?_, ?_, ?_, payloadLength, nextHeader, hopLimit, source, destination⟩
  · omega
  · omega
  · change octetAt bytes (i + 1) % 16 * 65536 + wordAt bytes (i + 1 + 1) = _
    omega

theorem exists_at (long : i + 40 ≤ bytes.length) (version : octetAt bytes i / 16 = 6) :
    ∃ h : Ipv6, bytes.drop i = h.encode ++ bytes.drop (i + 40) := by
  obtain ⟨first, at₁⟩ := exists_octet (by omega : i + 1 ≤ bytes.length)
  obtain ⟨second, at₂⟩ := exists_octet (by omega : i + 1 + 1 ≤ bytes.length)
  obtain ⟨flowLow, at₃⟩ := exists_word (by omega : i + 1 + 1 + 2 ≤ bytes.length)
  obtain ⟨payloadLength, at₄⟩ := exists_word (by omega : i + 1 + 1 + 2 + 2 ≤ bytes.length)
  obtain ⟨nextHeader, at₅⟩ := exists_octet (by omega : i + 6 + 1 ≤ bytes.length)
  obtain ⟨hopLimit, at₆⟩ := exists_octet (by omega : i + 7 + 1 ≤ bytes.length)
  obtain ⟨source, at₇⟩ := exists_octets 16 (by omega : i + 8 + 16 ≤ bytes.length)
  obtain ⟨destination, at₈⟩ := exists_octets 16 (by omega : i + 24 + 16 ≤ bytes.length)
  rw [(octetAt_of_drop at₁).1] at version
  have encoded := encode_unpacked version second flowLow payloadLength nextHeader hopLimit
    ⟨source⟩ ⟨destination⟩
  refine ⟨_, Eq.trans ?_ (congrArg (· ++ bytes.drop (i + 40)) encoded.symm)⟩
  rw [at₁, at₂, at₃, at₄, at₅, at₆, at₇, at₈]
  simp only [List.cons_append, List.append_assoc]

end Ipv6

namespace Udp

theorem read_eq_some_iff {h : Udp} : read bytes = some (h, rest) ↔ bytes = h.encode ++ rest := by
  constructor
  · intro done
    obtain ⟨sourcePort, _, first, done⟩ := Reader.bind_eq_some_iff.1 done
    obtain ⟨destinationPort, _, second, done⟩ := Reader.bind_eq_some_iff.1 done
    obtain ⟨length, _, third, done⟩ := Reader.bind_eq_some_iff.1 done
    obtain ⟨checksum, _, fourth, done⟩ := Reader.bind_eq_some_iff.1 done
    obtain ⟨rfl, rfl⟩ := Reader.pure_eq_some_iff.1 done
    rw [Reader.word_eq_some_iff.1 first, Reader.word_eq_some_iff.1 second,
      Reader.word_eq_some_iff.1 third, Reader.word_eq_some_iff.1 fourth]
    simp [encode]
  · intro same
    rw [same]
    exact read_encode h rest

/-- The fields stand in their places in the octets from `i` on. -/
structure StandsAt (h : Udp) (bytes : Bytes) (i : Nat) : Prop where
  sourcePort : wordAt bytes i = h.sourcePort.toNat
  destinationPort : wordAt bytes (i + 2) = h.destinationPort.toNat
  length : wordAt bytes (i + 4) = h.length.toNat
  checksum : wordAt bytes (i + 6) = h.checksum.toNat

theorem standsAt {h : Udp} (found : bytes.drop i = h.encode ++ rest) : h.StandsAt bytes i := by
  simp only [encode, List.append_assoc] at found
  obtain ⟨sourcePort, found⟩ := wordAt_of_drop found
  obtain ⟨destinationPort, found⟩ := wordAt_of_drop found
  obtain ⟨length, found⟩ := wordAt_of_drop found
  obtain ⟨checksum, _⟩ := wordAt_of_drop found
  exact ⟨sourcePort, destinationPort, length, checksum⟩

theorem exists_at (long : i + 8 ≤ bytes.length) :
    ∃ h : Udp, bytes.drop i = h.encode ++ bytes.drop (i + 8) := by
  obtain ⟨sourcePort, first⟩ := exists_word (by omega : i + 2 ≤ bytes.length)
  obtain ⟨destinationPort, second⟩ := exists_word (by omega : i + 2 + 2 ≤ bytes.length)
  obtain ⟨length, third⟩ := exists_word (by omega : i + 4 + 2 ≤ bytes.length)
  obtain ⟨checksum, fourth⟩ := exists_word (by omega : i + 6 + 2 ≤ bytes.length)
  refine ⟨⟨sourcePort, destinationPort, length, checksum⟩, ?_⟩
  rw [first, second, third, fourth]
  simp only [encode, List.append_assoc]

end Udp
end Srv6Traffic.Header
