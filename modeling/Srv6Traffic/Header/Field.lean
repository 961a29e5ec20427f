import Srv6Traffic.Wire.Reader

/-! The parts of a frame that an error can name, and readers that name the part they fail at. -/
namespace Srv6Traffic

inductive Field where
  | ethernet | ipv6 | ipv4 | udp | payload
  | etherType | nextHeader | destination | payloadLength
  | hdrExtLen | routingType | segmentsLeft | lastEntry | flags | tag | segments
  | protocol | headerChecksum | totalLength | length | checksum
  deriving DecidableEq

def Field.name : Field → String
  | .ethernet => "ethernet"
  | .ipv6 => "ipv6"
  | .ipv4 => "ipv4"
  | .udp => "udp"
  | .payload => "payload"
  | .etherType => "ether_type"
  | .nextHeader => "next_header"
  | .destination => "destination"
  | .payloadLength => "payload_length"
  | .hdrExtLen => "hdr_ext_len"
  | .routingType => "routing_type"
  | .segmentsLeft => "segments_left"
  | .lastEntry => "last_entry"
  | .flags => "flags"
  | .tag => "tag"
  | .segments => "segments"
  | .protocol => "protocol"
  | .headerChecksum => "header_checksum"
  | .totalLength => "total_len"
  | .length => "length"
  | .checksum => "checksum"

abbrev FieldReader := StateT Bytes (Except Field)

namespace FieldReader

def need {α : Type} (field : Field) (read : Reader α) : FieldReader α := fun bytes =>
  match read bytes with
  | some result => .ok result
  | none => .error field

def check (field : Field) (ok : Bool) : FieldReader Unit := need field (Reader.check ok)

theorem bind_eq {α β : Type} (read : FieldReader α) (next : α → FieldReader β) (bytes : Bytes) :
    (read >>= next) bytes = (read bytes).bind fun r => next r.1 r.2 := rfl

theorem check_true (field : Field) (bytes : Bytes) : check field true bytes = .ok ((), bytes) := rfl

end FieldReader

namespace Header

/-- Why headers cannot be built from the values given for them. -/
inductive BuildError where
  | noSegments
  | tooManySegments
  | payloadTooLarge
  deriving DecidableEq

/-- A length for a sixteen-bit field, or the error that it does not fit. -/
def lengthWord (n : Nat) : Except BuildError UInt16 :=
  if n < 65536 then .ok (.ofNat n) else .error .payloadTooLarge

end Header
end Srv6Traffic
