import Srv6Traffic.Journal
import Srv6Traffic.Packet.Codec
import Srv6Traffic.Signed

/-! Templates describe a frame up to its length. Building one fills it up with padding: an IPv4 and
UDP datagram behind a segment routing header, with every length and checksum computed. -/
namespace Srv6Traffic

structure Template where
  destinationMac : Mac := .broadcast
  sourceMac : Mac := .zero
  outerSource : Ipv6Address := .ofGroups 0xfc00 1 0 0 0 0 0 1
  hopLimit : UInt8 := 64
  segments : List Ipv6Address := [.ofGroups 0xfc00 2 0 0 0 0 0 2]
  innerSource : Ipv4Address := .ofOctets 10 1 0 1
  innerDestination : Ipv4Address := .ofOctets 10 2 0 1
  timeToLive : UInt8 := 64
  sourcePort : UInt16 := 10053
  destinationPort : UInt16 := 10053
  filler : UInt8 := 0x78
  deriving DecidableEq

/-- A built template: the octets of its frame, and how many of them are padding. -/
structure Frame where
  bytes : Slice
  padding : Nat

namespace Frame

instance : BEq Frame := ⟨fun a b => a.bytes == b.bytes && a.padding == b.padding⟩

def data (f : Frame) : Bytes := f.bytes.data
def length (f : Frame) : Nat := f.bytes.length
def isEmpty (f : Frame) : Bool := f.bytes.isEmpty
def sharesBytes (a b : Frame) : Bool := a.bytes.sharesBuffer b.bytes

def decode (f : Frame) : Except Field Packet :=
  match Packet.decode f.bytes with
  | .ok packet _ => .ok packet
  | .error field _ => .error field

end Frame

namespace Template

/-- Why there is no frame. That a header cannot be written is no reason among these, as it goes into memory. -/
inductive BuildError where
  | noSegments
  | tooManySegments
  | packetTooLarge
  | inconsistent (field : Field)
  | notEnoughSpace
  deriving DecidableEq

namespace BuildError

def ofHeader : Header.BuildError → BuildError
  | .noSegments => .noSegments
  | .tooManySegments => .tooManySegments
  | .payloadTooLarge => .packetTooLarge

def message : BuildError → String
  | .noSegments => "NoSegments"
  | .tooManySegments => "TooManySegments"
  | .packetTooLarge => "PacketTooLarge"
  | .inconsistent field =>
    "Packet(Inconsistent \x7b field: \"" ++ field.name ++ "\" \x7d)"
  | .notEnoughSpace => "Encoding(NotEnoughSpace)"

end BuildError

def unpaddedLength (t : Template) : Nat :=
  Header.Ethernet.size + Header.Ipv6.size + Header.SegmentRouting.fixedSize +
    Header.SegmentRouting.segmentSize * t.segments.length + Header.Ipv4.minSize + Header.Udp.size

-- Irreducible, since unification would compute with the bounds of 64 bits.
/-- What is missing to the requested length. To a shorter one nothing is, as a frame is never cut. -/
@[irreducible] def paddingFor (t : Template) (length : Int64) : Except BuildError Nat :=
  match Signed.unsigned? (max (Signed.saturatingSub length (.ofNat t.unpaddedLength)) 0) with
  | some padding => .ok padding
  | none => .error .packetTooLarge

def headers (t : Template) (padding : Nat) : Except Header.BuildError Headers := do
  let routing ← Header.SegmentRouting.build .ipInIp 0 0 t.segments
  let totalLength ← Header.lengthWord (Header.Ipv4.minSize + Header.Udp.size + padding)
  let ipv4 : Header.Ipv4 := Header.Ipv4.withChecksum {
    dscp := 0
    ecn := 0
    totalLength
    identification := 1
    dontFragment := false
    moreFragments := false
    fragmentOffset := 0
    timeToLive := t.timeToLive
    protocol := Header.Ipv4.protocolUdp
    checksum := 0
    source := t.innerSource
    destination := t.innerDestination
    options := .none }
  let udp ← Header.Udp.build t.sourcePort t.destinationPort ipv4.source ipv4.destination
    (.replicate padding t.filler)
  let payloadLength ← Header.lengthWord (routing.size + totalLength.toNat)
  return {
    ethernet := ⟨t.destinationMac, t.sourceMac, Header.Ethernet.typeIpv6⟩
    ipv6 := {
      trafficClass := 0
      flowLabel := 0
      payloadLength
      nextHeader := Header.NextHeader.routing.number
      hopLimit := t.hopLimit
      source := t.outerSource
      destination := routing.activeSegment }
    routing
    ipv4
    udp }

/-- The frame of the requested length, or of the least one there is. The padding and the frame take
new buffers, with serial numbers from `serial` on. -/
def frame (t : Template) (serial : Nat) (length : Int64) : Except BuildError Frame := do
  let padding ← t.paddingFor length
  let headers ← (t.headers padding).mapError .ofHeader
  let payload := Slice.ofBytes serial (.replicate padding t.filler)
  let packet ← (Packet.build headers payload).mapError .inconsistent
  match packet.encode? with
  | some writer => return ⟨.whole ⟨serial + 1, writer⟩, padding⟩
  | none => throw .notEnoughSpace

def build (t : Template) (serial : Nat) (length : Int64) : Traced (Except BuildError Frame) :=
  match t.frame serial length with
  | .ok frame => ⟨.ok frame, [.templateBuilt frame.length frame.padding t.segments.length]⟩
  | .error e => ⟨.error e, []⟩

end Template
end Srv6Traffic
