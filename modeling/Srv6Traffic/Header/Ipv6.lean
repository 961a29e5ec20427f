import Srv6Traffic.Address.Ip
import Srv6Traffic.Wire.Reader

/-! The fixed IPv6 header: version, traffic class and flow label share its first four octets. As documented for
etherparse 0.16, reading refuses other versions and takes every payload length. -/
namespace Srv6Traffic.Header

structure Ipv6 where
  trafficClass : UInt8
  flowLabel : BitVec 20
  payloadLength : UInt16
  nextHeader : UInt8
  hopLimit : UInt8
  source : Ipv6Address
  destination : Ipv6Address
  deriving DecidableEq

namespace Ipv6

def size : Nat := 40

def encode (h : Ipv6) : Bytes :=
  .ofNat (96 + h.trafficClass.toNat / 16) ::
    .ofNat (16 * (h.trafficClass.toNat % 16) + h.flowLabel.toNat / 65536) ::
    (Word.encode (.ofNat h.flowLabel.toNat) ++ (Word.encode h.payloadLength ++
      h.nextHeader :: h.hopLimit :: (h.source.octets.val ++ h.destination.octets.val)))

def read : Reader Ipv6 := do
  let first ← Reader.octet
  let second ← Reader.octet
  let flowLow ← Reader.word
  let payloadLength ← Reader.word
  let nextHeader ← Reader.octet
  let hopLimit ← Reader.octet
  let source ← Reader.octets 16
  let destination ← Reader.octets 16
  Reader.check (first.toNat / 16 = 6)
  return {
    trafficClass := .ofNat (16 * (first.toNat % 16) + second.toNat / 16)
    flowLabel := .ofNat 20 (65536 * (second.toNat % 16) + flowLow.toNat)
    payloadLength, nextHeader, hopLimit
    source := ⟨source⟩
    destination := ⟨destination⟩ }

@[simp] theorem length_encode (h : Ipv6) : h.encode.length = size := by
  simp [encode, h.source.octets.property, h.destination.octets.property, size]

theorem read_encode (h : Ipv6) (rest : Bytes) : read (h.encode ++ rest) = some (h, rest) := by
  obtain ⟨traffic, label, length, next, hops, src, dst⟩ := h
  have := traffic.toNat_lt
  have := label.isLt
  have version : (96 + traffic.toNat / 16) % 256 / 16 = 6 := by omega
  have trafficClass : UInt8.ofNat (16 * ((96 + traffic.toNat / 16) % 256 % 16) +
      (16 * (traffic.toNat % 16) + label.toNat / 65536) % 256 / 16) = traffic := by
    apply UInt8.toNat_inj.1
    rw [UInt8.toNat_ofNat']
    omega
  have flowLabel : BitVec.ofNat 20
      (65536 * ((16 * (traffic.toNat % 16) + label.toNat / 65536) % 256 % 16) +
        label.toNat % 65536) = label := by
    apply BitVec.eq_of_toNat_eq
    rw [BitVec.toNat_ofNat]
    omega
  simp only [read, encode, Reader.bind_eq, Reader.pure_eq, Reader.check, List.cons_append,
    List.append_assoc, Reader.octet_cons, Reader.word_append, Reader.octets_append,
    Option.bind_some, UInt8.toNat_ofNat', UInt16.toNat_ofNat', Nat.reducePow, version, decide_true,
    if_true, trafficClass, flowLabel]

end Ipv6
end Srv6Traffic.Header
