import Srv6Traffic.Header.Field
import Srv6Traffic.Header.Ipv4

/-! The UDP header and its checksum over IPv4. A checksum field of zero says that none was taken, so
a computed zero is sent as `0xffff`, which is the other zero of one's-complement numbers. As documented for
etherparse 0.16, reading takes every length and checksum, and only building a header puts a limit to its payload. -/
namespace Srv6Traffic.Header

structure Udp where
  sourcePort : UInt16
  destinationPort : UInt16
  length : UInt16
  checksum : UInt16
  deriving DecidableEq

namespace Udp

def size : Nat := 8

def encode (h : Udp) : Bytes :=
  Word.encode h.sourcePort ++ (Word.encode h.destinationPort ++
    (Word.encode h.length ++ Word.encode h.checksum))

def read : Reader Udp := do
  let sourcePort ← Reader.word
  let destinationPort ← Reader.word
  let length ← Reader.word
  let checksum ← Reader.word
  return ⟨sourcePort, destinationPort, length, checksum⟩

/-- What the network layer adds to the checksum: addresses, protocol and length. -/
def pseudoHeader (h : Udp) (source destination : Ipv4Address) : Bytes :=
  source.octets.val ++ (destination.octets.val ++ 0 :: Ipv4.protocolUdp :: Word.encode h.length)

/-- The checksum that the header should carry in front of `payload`. -/
def checksumFor (h : Udp) (source destination : Ipv4Address) (payload : Bytes) : UInt16 :=
  let header := h.pseudoHeader source destination ++ { h with checksum := 0 }.encode
  let sum := OnesSum.complement (OnesSum.addBytes (OnesSum.addBytes 0 header) payload)
  if sum = 0 then 0xffff else sum

/-- The header as it is sent in front of `payload`. -/
def withChecksum (h : Udp) (source destination : Ipv4Address) (payload : Bytes) : Udp :=
  { h with checksum := h.checksumFor source destination payload }

/-- The header of a payload. Its length field counts the header too, so a payload can be too long for it. -/
def build (sourcePort destinationPort : UInt16) (source destination : Ipv4Address) (payload : Bytes) :
    Except BuildError Udp :=
  if 65535 - size < payload.length then .error .payloadTooLarge
  else
    let length := .ofNat (size + payload.length)
    .ok (withChecksum ⟨sourcePort, destinationPort, length, 0⟩ source destination payload)

@[simp] theorem length_encode (h : Udp) : h.encode.length = size := by simp [encode, size]

theorem read_encode (h : Udp) (rest : Bytes) : read (h.encode ++ rest) = some (h, rest) := by
  simp [read, encode, Reader.bind_eq, Reader.map_eq]

end Udp
end Srv6Traffic.Header
