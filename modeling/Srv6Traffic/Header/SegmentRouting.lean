import Srv6Traffic.Address.Ip
import Srv6Traffic.Header.Field

/-! The segment routing header: eight octets and a list of segments. A header always has a segment
to be routed to, and no more segments than its length octet can tell. -/
namespace Srv6Traffic.Header

/-- The protocols that an IPv6 header of this traffic announces. -/
inductive NextHeader where
  | ipInIp
  | udp
  | ipv6
  | routing
  deriving DecidableEq

namespace NextHeader

def number : NextHeader → UInt8
  | .ipInIp => 4
  | .udp => 17
  | .ipv6 => 41
  | .routing => 43

def ofNumber? (n : UInt8) : Option NextHeader :=
  if n = 4 then some .ipInIp
  else if n = 17 then some .udp
  else if n = 41 then some .ipv6
  else if n = 43 then some .routing
  else none

def read : Reader NextHeader := do
  let number ← Reader.octet
  Reader.lift (ofNumber? number)

theorem ofNumber?_number (p : NextHeader) : ofNumber? p.number = some p := by cases p <;> rfl

theorem read_cons (p : NextHeader) (rest : Bytes) : read (p.number :: rest) = some (p, rest) := by
  simp [read, Reader.bind_eq, ofNumber?_number]

end NextHeader

structure SegmentRouting where
  nextHeader : NextHeader
  segmentsLeft : UInt8
  flags : UInt8
  tag : UInt16
  segments : List Ipv6Address
  left_lt : segmentsLeft.toNat < segments.length
  length_le : segments.length ≤ 127
  deriving DecidableEq

namespace SegmentRouting

def fixedSize : Nat := 8
def segmentSize : Nat := 16
def routingType : UInt8 := 4

/-- As many segments as 255 units of eight octets hold. -/
def maxSegments : Nat := 127

def ofParts? (nextHeader : NextHeader) (segmentsLeft flags : UInt8) (tag : UInt16)
    (segments : List Ipv6Address) : Option SegmentRouting :=
  if h : segmentsLeft.toNat < segments.length ∧ segments.length ≤ maxSegments then
    some ⟨nextHeader, segmentsLeft, flags, tag, segments, h.1, h.2⟩
  else none

/-- A header as its sender writes it: the last segment listed is the active one. -/
def build (nextHeader : NextHeader) (flags : UInt8) (tag : UInt16) (segments : List Ipv6Address) :
    Except BuildError SegmentRouting :=
  if segments = [] then .error .noSegments
  else match ofParts? nextHeader (.ofNat (segments.length - 1)) flags tag segments with
    | some h => .ok h
    | none => .error .tooManySegments

def size (h : SegmentRouting) : Nat := fixedSize + segmentSize * h.segments.length

/-- The length after the first eight octets, in units of eight. -/
def extLength (h : SegmentRouting) : UInt8 := .ofNat (2 * h.segments.length)
def lastEntry (h : SegmentRouting) : UInt8 := .ofNat (h.segments.length - 1)
def activeSegment (h : SegmentRouting) : Ipv6Address := h.segments.get ⟨_, h.left_lt⟩

def encode (h : SegmentRouting) : Bytes :=
  h.nextHeader.number :: h.extLength :: routingType :: h.segmentsLeft :: h.lastEntry :: h.flags ::
    (Word.encode h.tag ++ h.segments.flatMap fun segment => segment.octets.val)

def readSegment : Reader Ipv6Address := Ipv6Address.mk <$> Reader.octets 16

/-- Reads from front to back; a length that does not suit the segments counts before the flags. -/
def read : FieldReader SegmentRouting := do
  let nextHeader ← FieldReader.need .nextHeader NextHeader.read
  let extLength ← FieldReader.need .hdrExtLen Reader.octet
  let kind ← FieldReader.need .routingType Reader.octet
  FieldReader.check .routingType (kind = routingType)
  let segmentsLeft ← FieldReader.need .segmentsLeft Reader.octet
  let lastEntry ← FieldReader.need .lastEntry Reader.octet
  FieldReader.check .segmentsLeft (segmentsLeft ≤ lastEntry)
  FieldReader.check .hdrExtLen (extLength.toNat = 2 * (lastEntry.toNat + 1))
  let flags ← FieldReader.need .flags Reader.octet
  let tag ← FieldReader.need .tag Reader.word
  let segments ← FieldReader.need .segments (Reader.times readSegment (lastEntry.toNat + 1))
  FieldReader.need .segments
    (Reader.lift (ofParts? nextHeader segmentsLeft flags tag segments))

theorem length_segments (segments : List Ipv6Address) :
    (segments.flatMap fun segment => segment.octets.val).length = 16 * segments.length := by
  induction segments with
  | nil => rfl
  | cons segment segments ih =>
    simp only [List.flatMap_cons, List.length_append, List.length_cons, ih, segment.octets.property]
    omega

theorem length_encode (h : SegmentRouting) : h.encode.length = h.size := by
  simp only [encode, List.length_cons, List.length_append, Word.length_encode, length_segments, size,
    fixedSize, segmentSize]
  omega

theorem toNat_lastEntry (h : SegmentRouting) : h.lastEntry.toNat + 1 = h.segments.length := by
  have := h.left_lt
  have := h.length_le
  simp only [lastEntry, UInt8.toNat_ofNat']
  omega

theorem toNat_extLength (h : SegmentRouting) : h.extLength.toNat = 2 * h.segments.length := by
  have := h.length_le
  simp only [extLength, UInt8.toNat_ofNat']
  omega

theorem left_le_lastEntry (h : SegmentRouting) : h.segmentsLeft ≤ h.lastEntry := by
  have := h.left_lt
  have := h.toNat_lastEntry
  rw [UInt8.le_iff_toNat_le]
  omega

theorem readSegment_append (segment : Ipv6Address) (rest : Bytes) :
    readSegment (segment.octets.val ++ rest) = some (segment, rest) := by
  simp [readSegment, Reader.map_eq]

theorem read_encode (h : SegmentRouting) (rest : Bytes) :
    read (h.encode ++ rest) = .ok (h, rest) := by
  have parts : ofParts? h.nextHeader h.segmentsLeft h.flags h.tag h.segments = some h :=
    dif_pos ⟨h.left_lt, h.length_le⟩
  have segments := Reader.times_append readSegment_append h.segments rest
  simp only [read, encode, FieldReader.bind_eq, FieldReader.need, FieldReader.check_true,
    List.cons_append, List.append_assoc, NextHeader.read_cons, Reader.octet_cons,
    Reader.word_append, Reader.lift_some, Except.bind, decide_true, h.left_le_lastEntry,
    h.toNat_extLength, h.toNat_lastEntry, segments, parts]

end SegmentRouting
end Srv6Traffic.Header
