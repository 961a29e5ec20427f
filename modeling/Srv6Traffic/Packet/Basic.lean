import Srv6Traffic.Buffer.Slice
import Srv6Traffic.Header.Ethernet
import Srv6Traffic.Header.Ipv6
import Srv6Traffic.Header.SegmentRouting
import Srv6Traffic.Header.Udp

/-! An IPv4 datagram routed over IPv6 segments: five headers and a payload that agree with each
other on types, lengths, checksums and the active segment. -/
namespace Srv6Traffic

structure Headers where
  ethernet : Header.Ethernet
  ipv6 : Header.Ipv6
  routing : Header.SegmentRouting
  ipv4 : Header.Ipv4
  udp : Header.Udp
  deriving DecidableEq

namespace Headers

def size (h : Headers) : Nat :=
  Header.Ethernet.size + Header.Ipv6.size + h.routing.size + h.ipv4.size + Header.Udp.size

/-- The first field, from the outside in, that contradicts another one or the payload. -/
def conflict? (h : Headers) (payload : Bytes) : Option Field :=
  if h.ethernet.etherType ≠ Header.Ethernet.typeIpv6 then some .etherType
  else if h.ipv6.nextHeader ≠ Header.NextHeader.routing.number then some .nextHeader
  else if h.ipv6.destination ≠ h.routing.activeSegment then some .destination
  else if h.ipv6.payloadLength.toNat ≠ h.routing.size + h.ipv4.totalLength.toNat then
    some .payloadLength
  else if h.routing.nextHeader ≠ .ipInIp then some .nextHeader
  else if h.ipv4.protocol ≠ Header.Ipv4.protocolUdp then some .protocol
  else if h.ipv4.checksum ≠ h.ipv4.headerChecksum then some .headerChecksum
  else if h.ipv4.totalLength.toNat ≠ h.ipv4.size + h.udp.length.toNat then some .totalLength
  else if h.udp.length.toNat ≠ Header.Udp.size + payload.length then some .length
  else if h.udp.checksum ≠ 0 ∧
      h.udp.checksum ≠ h.udp.checksumFor h.ipv4.source h.ipv4.destination payload then
    some .checksum
  else none

end Headers

structure Packet where
  headers : Headers
  payload : Slice
  consistent : headers.conflict? payload.data = none

namespace Packet

def build (headers : Headers) (payload : Slice) : Except Field Packet :=
  match h : headers.conflict? payload.data with
  | none => .ok ⟨headers, payload, h⟩
  | some field => .error field

instance : BEq Packet := ⟨fun p q => p.headers == q.headers && p.payload == q.payload⟩

def headerLength (p : Packet) : Nat := p.headers.size
def frameLength (p : Packet) : Nat := p.headerLength + p.payload.length

end Packet
end Srv6Traffic
