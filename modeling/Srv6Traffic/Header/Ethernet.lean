import Srv6Traffic.Address.Mac
import Srv6Traffic.Wire.Reader

/-! Ethernet II: destination, source, and the type of what follows. The program leaves this header, and those of
IPv6, IPv4 and UDP, to the library etherparse; they are written and read here as its version 0.16 documents it. -/
namespace Srv6Traffic.Header

structure Ethernet where
  destination : Mac
  source : Mac
  etherType : UInt16
  deriving DecidableEq

namespace Ethernet

def size : Nat := 14
def typeIpv6 : UInt16 := 0x86dd

def encode (h : Ethernet) : Bytes :=
  h.destination.octets.val ++ (h.source.octets.val ++ Word.encode h.etherType)

def read : Reader Ethernet := do
  let destination ← Reader.octets 6
  let source ← Reader.octets 6
  let etherType ← Reader.word
  return ⟨⟨destination⟩, ⟨source⟩, etherType⟩

@[simp] theorem length_encode (h : Ethernet) : h.encode.length = size := by
  simp [encode, h.destination.octets.property, h.source.octets.property, size]

theorem read_encode (h : Ethernet) (rest : Bytes) : read (h.encode ++ rest) = some (h, rest) := by
  simp [read, encode, Reader.bind_eq, Reader.map_eq]

end Ethernet
end Srv6Traffic.Header
