import Srv6Traffic.Address.Ip
import Srv6Traffic.Wire.OnesSum
import Srv6Traffic.Wire.Reader

/-! The IPv4 header with its options. The reserved flag bit is not kept: it reads as anything and is
written as zero. As documented for etherparse 0.16, reading asks for the version and for a header length that the
octets reach, and takes every total length and checksum; the header is sent with its checksum computed anew. -/
namespace Srv6Traffic.Header

/-- Options fill whole words of four octets, and at most ten of them. -/
abbrev Ipv4Options := { bytes : Bytes // bytes.length % 4 = 0 ∧ bytes.length ≤ 40 }

namespace Ipv4Options

def none : Ipv4Options := ⟨[], by decide⟩

def read (words : Nat) : Reader Ipv4Options := fun bytes =>
  if h : words ≤ 10 ∧ 4 * words ≤ bytes.length then
    some (⟨bytes.take (4 * words), by rw [List.length_take_of_le h.2]; omega⟩,
      bytes.drop (4 * words))
  else .none

theorem read_append (options : Ipv4Options) (rest : Bytes) :
    read (options.val.length / 4) (options.val ++ rest) = some (options, rest) := by
  obtain ⟨bytes, aligned, few⟩ := options
  have words : 4 * (bytes.length / 4) = bytes.length := by omega
  have fits : bytes.length / 4 ≤ 10 ∧ bytes.length ≤ (bytes ++ rest).length := by
    rw [List.length_append]
    omega
  simp only [read, words, fits, and_self, dite_true, List.take_left', List.drop_left']

end Ipv4Options

structure Ipv4 where
  dscp : BitVec 6
  ecn : BitVec 2
  totalLength : UInt16
  identification : UInt16
  dontFragment : Bool
  moreFragments : Bool
  fragmentOffset : BitVec 13
  timeToLive : UInt8
  protocol : UInt8
  checksum : UInt16
  source : Ipv4Address
  destination : Ipv4Address
  options : Ipv4Options
  deriving DecidableEq

namespace Ipv4

/-- The length without options. -/
def minSize : Nat := 20
def size (h : Ipv4) : Nat := minSize + h.options.val.length
def protocolUdp : UInt8 := 17

def flagsWord (h : Ipv4) : UInt16 :=
  .ofNat (16384 * h.dontFragment.toNat + 8192 * h.moreFragments.toNat + h.fragmentOffset.toNat)

def encode (h : Ipv4) : Bytes :=
  .ofNat (64 + h.size / 4) :: .ofNat (4 * h.dscp.toNat + h.ecn.toNat) ::
    (Word.encode h.totalLength ++ (Word.encode h.identification ++ (Word.encode h.flagsWord ++
      h.timeToLive :: h.protocol :: (Word.encode h.checksum ++
        (h.source.octets.val ++ (h.destination.octets.val ++ h.options.val))))))

def read : Reader Ipv4 := do
  let first ← Reader.octet
  let service ← Reader.octet
  let totalLength ← Reader.word
  let identification ← Reader.word
  let flags ← Reader.word
  let timeToLive ← Reader.octet
  let protocol ← Reader.octet
  let checksum ← Reader.word
  let source ← Reader.octets 4
  let destination ← Reader.octets 4
  Reader.check (first.toNat / 16 = 4 ∧ 5 ≤ first.toNat % 16)
  let options ← Ipv4Options.read (first.toNat % 16 - 5)
  return {
    dscp := .ofNat 6 (service.toNat / 4)
    ecn := .ofNat 2 service.toNat
    totalLength, identification
    dontFragment := flags.toNat / 16384 % 2 = 1
    moreFragments := flags.toNat / 8192 % 2 = 1
    fragmentOffset := .ofNat 13 flags.toNat
    timeToLive, protocol, checksum
    source := ⟨source⟩
    destination := ⟨destination⟩
    options }

/-- The checksum that the header should carry: over its octets, with the checksum field zero. -/
def headerChecksum (h : Ipv4) : UInt16 :=
  OnesSum.complement (OnesSum.addBytes 0 { h with checksum := 0 }.encode)

/-- The header as it is sent. -/
def withChecksum (h : Ipv4) : Ipv4 := { h with checksum := h.headerChecksum }

@[simp] theorem length_encode (h : Ipv4) : h.encode.length = h.size := by
  simp [encode, h.source.octets.property, h.destination.octets.property, size, minSize]
  omega

/-- The first octet holds the version and the length in words of four octets. -/
theorem toNat_first (options : Ipv4Options) :
    (UInt8.ofNat (64 + (minSize + options.val.length) / 4)).toNat =
      69 + options.val.length / 4 := by
  obtain ⟨bytes, aligned, few⟩ := options
  simp only [UInt8.toNat_ofNat', minSize]
  omega

theorem dscp_service (dscp : BitVec 6) (ecn : BitVec 2) :
    BitVec.ofNat 6 ((UInt8.ofNat (4 * dscp.toNat + ecn.toNat)).toNat / 4) = dscp := by
  have := dscp.isLt
  have := ecn.isLt
  apply BitVec.eq_of_toNat_eq
  rw [BitVec.toNat_ofNat, UInt8.toNat_ofNat']
  omega

theorem ecn_service (dscp : BitVec 6) (ecn : BitVec 2) :
    BitVec.ofNat 2 (UInt8.ofNat (4 * dscp.toNat + ecn.toNat)).toNat = ecn := by
  have := dscp.isLt
  have := ecn.isLt
  apply BitVec.eq_of_toNat_eq
  rw [BitVec.toNat_ofNat, UInt8.toNat_ofNat']
  omega

theorem toNat_flagsWord (h : Ipv4) :
    h.flagsWord.toNat =
      16384 * h.dontFragment.toNat + 8192 * h.moreFragments.toNat + h.fragmentOffset.toNat := by
  have := h.fragmentOffset.isLt
  have := h.dontFragment.toNat_le
  have := h.moreFragments.toNat_le
  rw [flagsWord, UInt16.toNat_ofNat']
  omega

theorem dontFragment_flagsWord (h : Ipv4) :
    decide (h.flagsWord.toNat / 16384 % 2 = 1) = h.dontFragment := by
  have := h.fragmentOffset.isLt
  have := h.moreFragments.toNat_le
  rw [toNat_flagsWord]
  cases h.dontFragment with
  | false => exact decide_eq_false (by rw [Bool.toNat_false]; omega)
  | true => exact decide_eq_true (by rw [Bool.toNat_true]; omega)

theorem moreFragments_flagsWord (h : Ipv4) :
    decide (h.flagsWord.toNat / 8192 % 2 = 1) = h.moreFragments := by
  have := h.fragmentOffset.isLt
  rw [toNat_flagsWord]
  cases h.moreFragments with
  | false => exact decide_eq_false (by rw [Bool.toNat_false]; omega)
  | true => exact decide_eq_true (by rw [Bool.toNat_true]; omega)

theorem fragmentOffset_flagsWord (h : Ipv4) :
    BitVec.ofNat 13 h.flagsWord.toNat = h.fragmentOffset := by
  have := h.fragmentOffset.isLt
  apply BitVec.eq_of_toNat_eq
  rw [BitVec.toNat_ofNat, toNat_flagsWord]
  omega

end Ipv4
end Srv6Traffic.Header
