import Srv6Traffic.Proofs.Buffer.Faults
import Srv6Traffic.Proofs.Packet.Traps

/-! Routing headers in buffers. The decoder accepts just what a grammar over octets describes, takes
exactly that off, and leaves everything where it fails. The other way, a header is written into zeroed
octets field by field, every place checked, and put in front of the data of a writer if there is room. -/
namespace Srv6Traffic
open Header Header.SegmentRouting

/-- Octets that begin with a routing header, told octet by octet. -/
structure RoutingGrammar (bytes : Bytes) : Prop where
  fixed : 8 ≤ bytes.length
  nextHeader : octetAt bytes 0 = 4 ∨ octetAt bytes 0 = 17 ∨ octetAt bytes 0 = 41 ∨ octetAt bytes 0 = 43
  routingType : octetAt bytes 2 = 4
  segmentsLeft : octetAt bytes 3 ≤ octetAt bytes 4
  extLength : octetAt bytes 1 = 2 * (octetAt bytes 4 + 1)
  segments : 8 + 16 * (octetAt bytes 4 + 1) ≤ bytes.length

namespace Header

theorem NextHeader.exists_number_iff {n : Nat} :
    (∃ p : NextHeader, n = p.number.toNat) ↔ n = 4 ∨ n = 17 ∨ n = 41 ∨ n = 43 := by
  constructor
  · rintro ⟨p, rfl⟩
    cases p <;> decide
  · rintro (rfl | rfl | rfl | rfl)
    · exact ⟨.ipInIp, rfl⟩
    · exact ⟨.udp, rfl⟩
    · exact ⟨.ipv6, rfl⟩
    · exact ⟨.routing, rfl⟩

namespace SegmentRouting
variable {h : SegmentRouting} {bytes rest : Bytes}

theorem size_eq_of_front (split : bytes = h.encode ++ rest) : h.size = 8 + 16 * (octetAt bytes 4 + 1) := by
  have stand : h.StandsAt bytes 0 := standsAt split
  rw [stand.lastEntry, h.toNat_lastEntry]
  rfl

theorem grammar_of_front (split : bytes = h.encode ++ rest) : RoutingGrammar bytes := by
  have stand : h.StandsAt bytes 0 := standsAt split
  have size := size_eq_of_front split
  have length : bytes.length = h.size + rest.length := by
    rw [split, List.length_append, length_encode]
  have left := UInt8.le_iff_toNat_le.1 h.left_le_lastEntry
  refine ⟨by omega, NextHeader.exists_number_iff.1 ⟨_, stand.nextHeader⟩, stand.routingType, ?_, ?_, by omega⟩
  · rw [stand.segmentsLeft, stand.lastEntry]
    exact left
  · rw [stand.extLength, stand.lastEntry, h.toNat_lastEntry, h.toNat_extLength]

theorem exists_front (grammar : RoutingGrammar bytes) :
    ∃ h : SegmentRouting, ∃ rest, bytes = h.encode ++ rest := by
  obtain ⟨p, announced⟩ := NextHeader.exists_number_iff.2 grammar.nextHeader
  have long : 0 + 8 + 16 * (octetAt bytes (0 + 4) + 1) ≤ bytes.length := by
    simpa using grammar.segments
  obtain ⟨h, _, there⟩ := exists_at announced grammar.routingType grammar.segmentsLeft grammar.extLength long
  exact ⟨h, _, there⟩

end SegmentRouting
end Header

namespace Decoder
variable {s : Slice} {h : SegmentRouting} {rest : Slice}

theorem front_of_routing (done : routing s = .ok h rest) :
    s.data = h.encode ++ rest.data ∧ rest.buffer = s.buffer := by
  obtain ⟨happens, same⟩ := pop_eq_ok done fun _ read => ⟨_, read_eq_ok_iff.1 read⟩
  exact ⟨read_eq_ok_iff.1 happens, same⟩

theorem eq_of_routing_error {field : Field} (failed : routing s = .error field rest) : rest = s := by
  obtain ⟨_, _, left⟩ | ⟨_, _, _, done, _⟩ := pop_cases SegmentRouting.takes .segments s
  · rw [routing, left] at failed
    cases failed
    rfl
  · rw [routing, done] at failed
    cases failed

end Decoder
/-- A routing header is decoded from those octets that begin with one, whatever comes behind it. What is
taken off is just what the header is written as, so no two forms of it are accepted. -/
theorem routing_iff_grammar (s : Slice) :
    ((∃ h rest, Decoder.routing s = .ok h rest) ↔ RoutingGrammar s.data) ∧
      (∀ h rest, Decoder.routing s = .ok h rest →
        h.size = 8 + 16 * (octetAt s.data 4 + 1) ∧ rest.data = s.data.drop h.size ∧
          (∃ w, (Writer.zeroed h.size 0).prepend? h.encode = some w ∧ w.data = s.data.take h.size) ∧
          ∀ t rest', Decoder.routing t = .ok h rest' → t.data.take h.size = s.data.take h.size) ∧
      ∀ field rest, Decoder.routing s = .error field rest → rest = s := by
  refine ⟨⟨?_, ?_⟩, ?_, ?_⟩
  · rintro ⟨h, rest, done⟩
    exact grammar_of_front (Decoder.front_of_routing done).1
  · intro grammar
    obtain ⟨h, rest, there⟩ := exists_front grammar
    obtain ⟨s', done, _⟩ := Decoder.routing_of_append there
    exact ⟨h, s', done⟩
  · intro h rest done
    have split := (Decoder.front_of_routing done).1
    have front : ∀ t rest', Decoder.routing t = .ok h rest' → t.data.take h.size = h.encode := by
      intro t rest' same
      rw [(Decoder.front_of_routing same).1, List.take_left' h.length_encode]
    have room : (Writer.zeroed h.size 0).frontLength = h.encode.length + 0 := h.length_encode.symm
    obtain ⟨w, made, _, data, _⟩ := Writer.prepend?_of_room room
    refine ⟨size_eq_of_front split, ?_, ⟨w, made, ?_⟩, ?_⟩
    · rw [split, List.drop_left' h.length_encode]
    · rw [data, (Writer.views_zeroed _ _).2.1, front s rest done, List.append_nil]
    · intro t rest' same
      rw [front t rest' same, front s rest done]
  · intro field rest failed
    exact Decoder.eq_of_routing_error failed

/-- The header of two segments, one of which has been visited, with two octets behind it. -/
def sampleRouting : Bytes :=
  [41, 4, 4, 0, 1, 7, 1, 2] ++ .replicate 16 1 ++ .replicate 16 2 ++ [5, 6]

theorem routing_sample : ∃ h rest, Decoder.routing (.ofBytes 0 sampleRouting) = .ok h rest ∧
    h.size = 40 ∧ rest.data = [5, 6] := by
  have shown := Slice.data_ofBytes 0 sampleRouting
  obtain ⟨accepts, takes, _⟩ := routing_iff_grammar (.ofBytes 0 sampleRouting)
  rw [shown] at accepts takes
  obtain ⟨h, rest, done⟩ := accepts.2 ⟨by decide, by decide, by decide, by decide, by decide, by decide⟩
  obtain ⟨size, behind, _⟩ := takes h rest done
  have forty : h.size = 40 := size
  refine ⟨h, rest, done, forty, ?_⟩
  rw [behind, forty]
  rfl

/-- A routing header without what its type promises about its fields. -/
def Header.SegmentRouting.bare (h : SegmentRouting) : BareRouting :=
  ⟨h.nextHeader, h.segmentsLeft, h.lastEntry, h.flags, h.tag, h.segments⟩

namespace BareRouting

def setOctet (bytes : Bytes) (i : Nat) (b : UInt8) : Except Fault Bytes :=
  if i < bytes.length then .ok (bytes.set i b) else .error .range

def setOctets (bytes : Bytes) (start stop : Nat) (new : Bytes) : Except Fault Bytes :=
  if start ≤ stop ∧ stop ≤ bytes.length then
    if stop - start = new.length then .ok (overwrite bytes start new) else .error .length
  else .error .range

/-- Segments are written one by one, each to a place that follows from its number. -/
def writeSegments (bytes : Bytes) (i : Nat) : List Ipv6Address → Except Fault Bytes
  | [] => .ok bytes
  | segment :: segments => do
    let start := fixedSize + segmentSize * i
    let bytes ← setOctets bytes start (start + segmentSize) segment.octets.val
    writeSegments bytes (i + 1) segments

/-- The units of eight octets are told anew from the segments. -/
def writeFixed (r : BareRouting) (bytes : Bytes) : Except Fault Bytes := do
  let bytes ← setOctet bytes 0 r.nextHeader.number
  let bytes ← setOctet bytes 1 (.ofNat (segmentSize * r.segments.length / 8))
  let bytes ← setOctet bytes 2 routingType
  let bytes ← setOctet bytes 3 r.segmentsLeft
  let bytes ← setOctet bytes 4 r.lastEntry
  setOctet bytes 5 r.flags

def write (r : BareRouting) : Except Fault Bytes := do
  let bytes ← r.writeFixed (.replicate (fixedSize + segmentSize * r.segments.length) 0)
  let bytes ← setOctets bytes 6 8 (Word.encode r.tag)
  writeSegments bytes 0 r.segments

theorem setOctets_append {front old new rest : Bytes} {start stop : Nat} (place : start = front.length)
    (length : stop = start + old.length) (same : old.length = new.length) :
    setOctets (front ++ (old ++ rest)) start stop new = .ok (front ++ (new ++ rest)) := by
  have inside : start ≤ stop ∧ stop ≤ (front ++ (old ++ rest)).length := by
    simp only [List.length_append]
    omega
  rw [setOctets, if_pos inside, if_pos (by omega), Writer.overwrite_append place same]

/-- What has been written so far ends where the next segment belongs, and zeros stand behind it. -/
theorem writeSegments_eq {done : Bytes} {i : Nat} {segments : List Ipv6Address}
    (place : fixedSize + segmentSize * i = done.length) :
    writeSegments (done ++ .replicate (segmentSize * segments.length) 0) i segments =
      .ok (done ++ encodeSegments segments) := by
  induction segments generalizing done i with
  | nil => simp [writeSegments, encodeSegments]
  | cons segment segments ih =>
    let behind : Bytes := .replicate (segmentSize * segments.length) 0
    have zeros : (.replicate (segmentSize * (segment :: segments).length) 0 : Bytes) =
        .replicate segmentSize 0 ++ behind := by
      rw [List.replicate_append_replicate, List.length_cons, Nat.mul_succ, Nat.add_comm]
    have next : fixedSize + segmentSize * (i + 1) = (done ++ segment.octets.val).length := by
      rw [List.length_append, segment.octets.property, ← place, segmentSize]
      omega
    have written : setOctets (done ++ (.replicate segmentSize 0 ++ behind)) (fixedSize + segmentSize * i)
        (fixedSize + segmentSize * i + segmentSize) segment.octets.val =
        .ok (done ++ (segment.octets.val ++ behind)) :=
      setOctets_append place (by rw [List.length_replicate])
        (by rw [List.length_replicate, segment.octets.property, segmentSize])
    have rest := ih next
    rw [List.append_assoc] at rest
    rw [zeros, writeSegments, written]
    exact rest.trans (by simp [encodeSegments])

/-- A segment takes two units of eight octets. -/
theorem units_eq (n : Nat) : segmentSize * n / 8 = 2 * n := by
  rw [segmentSize]
  omega

/-- Writing a header never leaves its octets, and it leaves none of them unwritten. -/
theorem write_bare (h : SegmentRouting) : h.bare.write = .ok h.encode := by
  let fixed : Bytes := [h.nextHeader.number, h.extLength, routingType, h.segmentsLeft, h.lastEntry, h.flags]
  let zeros : Bytes := .replicate (segmentSize * h.segments.length) 0
  have blank : (.replicate (fixedSize + segmentSize * h.segments.length) 0 : Bytes) =
      0 :: 0 :: 0 :: 0 :: 0 :: 0 :: ([0, 0] ++ zeros) := by
    rw [← List.replicate_append_replicate]
    rfl
  have octets : h.bare.writeFixed (0 :: 0 :: 0 :: 0 :: 0 :: 0 :: ([0, 0] ++ zeros)) =
      .ok (fixed ++ ([0, 0] ++ zeros)) := by
    simp [writeFixed, SegmentRouting.bare, units_eq, setOctet, fixed, extLength, bind, Except.bind]
  have tag : setOctets (fixed ++ ([0, 0] ++ zeros)) 6 8 (Word.encode h.tag) =
      .ok (fixed ++ (Word.encode h.tag ++ zeros)) := setOctets_append rfl rfl rfl
  have others : writeSegments ((fixed ++ Word.encode h.tag) ++ zeros) 0 h.segments =
      .ok ((fixed ++ Word.encode h.tag) ++ encodeSegments h.segments) := writeSegments_eq rfl
  calc h.bare.write
      = writeSegments (fixed ++ (Word.encode h.tag ++ zeros)) 0 h.segments := by
        simp only [write, SegmentRouting.bare] at octets ⊢
        simp only [blank, octets, tag, bind, Except.bind]
    _ = .ok ((fixed ++ Word.encode h.tag) ++ encodeSegments h.segments) := by
        rw [← List.append_assoc, others]
    _ = .ok h.encode := rfl

end BareRouting

namespace Editing
variable (h : SegmentRouting) (w : Writer)

/-- A header is written apart from the buffer and put in front of the data as a whole. -/
def prependRouting (r : BareRouting) : Editing Unit :=
  match r.write with
  | .ok bytes => prepend bytes
  | .error fault => throw (.inl fault)

theorem prependRouting_bare :
    (prependRouting h.bare).run w.bare = shown w .notEnoughSpace (w.prepend? h.encode) := by
  rw [prependRouting, BareRouting.write_bare]
  exact prepend_bare w h.encode

theorem prependRouting_of_room {h : SegmentRouting} {w : Writer} (room : h.size ≤ w.frontLength) :
    ∃ w', w.prepend? h.encode = some w' ∧ (prependRouting h.bare).run w.bare = .ok () w'.bare ∧
      w'.frontLength + h.size = w.frontLength ∧ w'.front = w.front.take w'.frontLength ∧
      w'.data = h.encode ++ w.data ∧ w'.back = w.back := by
  have fits : h.encode.length ≤ w.frontLength := h.length_encode.symm ▸ room
  obtain ⟨w', made, front, data, back⟩ := Writer.prepend?_of_le fits
  rw [h.length_encode] at front
  have left : w'.frontLength = w.frontLength - h.size := by
    rw [← w'.length_front, front, List.length_take, w.length_front]
    omega
  refine ⟨w', made, ?_, by omega, ?_, data, back⟩
  · rw [prependRouting_bare, made, shown]
  · rw [left, front]

theorem prependRouting_of_short {h : SegmentRouting} {w : Writer} (short : w.frontLength < h.size) :
    (prependRouting h.bare).run w.bare = .error (.inr .notEnoughSpace) w.bare := by
  have refused : w.prepend? h.encode = none := dif_neg (by rw [h.length_encode]; omega)
  rw [prependRouting_bare, refused, shown]

end Editing

/-- What the decoder makes of the data of a writer that begins with a header. -/
theorem Decoder.routing_whole {h : SegmentRouting} {w : Writer} {rest : Bytes} (serial : Nat)
    (data : w.data = h.encode ++ rest) :
    ∃ s, Decoder.routing (.whole ⟨serial, w⟩) = .ok h s ∧ s.data = rest := by
  have shown : (Slice.whole ⟨serial, w⟩).data = h.encode ++ rest := (Slice.data_whole _).trans data
  obtain ⟨s, done, remains, _⟩ := Decoder.routing_of_append shown
  exact ⟨s, done, remains⟩

/-- A header is put in front of the data of a writer just when there is room for it. If there is none,
the writer stays as it is. Otherwise only the data changes, and from what it has become the same header is
read, with the old data behind it. -/
theorem routing_written_then_read (h : SegmentRouting) (w : Writer) :
    ((∃ b, (Editing.prependRouting h.bare).run w.bare = .ok () b) ↔ h.size ≤ w.frontLength) ∧
      (w.frontLength < h.size →
        (Editing.prependRouting h.bare).run w.bare = .error (.inr .notEnoughSpace) w.bare) ∧
      ∀ b, (Editing.prependRouting h.bare).run w.bare = .ok () b →
        ∃ w' : Writer, b = w'.bare ∧ w.prepend? h.encode = some w' ∧
          w'.data = h.encode ++ w.data ∧ h.encode.length = h.size ∧
          w'.frontLength + h.size = w.frontLength ∧ w'.front = w.front.take w'.frontLength ∧
          w'.back = w.back ∧
          ∀ serial, ∃ rest, Decoder.routing (.whole ⟨serial, w'⟩) = .ok h rest ∧ rest.data = w.data := by
  have succeeds (b : BareWriter) (done : (Editing.prependRouting h.bare).run w.bare = .ok () b) :
      h.size ≤ w.frontLength := by
    refine Nat.not_lt.1 fun short => ?_
    rw [Editing.prependRouting_of_short short] at done
    cases done
  refine ⟨⟨?_, ?_⟩, Editing.prependRouting_of_short, ?_⟩
  · rintro ⟨b, done⟩
    exact succeeds b done
  · intro room
    obtain ⟨w', _, done, _⟩ := Editing.prependRouting_of_room room
    exact ⟨_, done⟩
  · intro b done
    obtain ⟨w', made, done', left, front, data, back⟩ := Editing.prependRouting_of_room (succeeds b done)
    rw [done'] at done
    cases done
    exact ⟨w', rfl, made, data, h.length_encode, left, front, back,
      fun serial => Decoder.routing_whole serial data⟩

/-- A header of one segment, and a writer with just the room for it. -/
def sampleSegment : SegmentRouting :=
  ⟨.udp, 0, 7, 258, [⟨⟨.replicate 16 1, by decide⟩⟩], by decide, by decide⟩

def sampleWriter : Writer := ⟨.replicate 24 5 ++ [8, 9, 6], 24, 26, by decide, by decide⟩

theorem segment_written_then_read : ∃ w' : Writer,
    (Editing.prependRouting sampleSegment.bare).run sampleWriter.bare = .ok () w'.bare ∧
      w'.frontLength = 0 ∧ w'.back = [6] ∧
      (Editing.prependRouting sampleSegment.bare).run w'.bare = .error (.inr .notEnoughSpace) w'.bare ∧
      ∃ rest, Decoder.routing (.whole ⟨3, w'⟩) = .ok sampleSegment rest ∧ rest.data = [8, 9] := by
  obtain ⟨fits, _, written⟩ := routing_written_then_read sampleSegment sampleWriter
  obtain ⟨b, done⟩ := fits.2 (by decide)
  obtain ⟨w', rfl, _, _, _, left, _, back, read⟩ := written b done
  have full : w'.frontLength = 0 := Nat.add_right_cancel left
  have again := (routing_written_then_read sampleSegment w').2.1 (by rw [full]; decide)
  exact ⟨w', done, full, back, again, read 3⟩

end Srv6Traffic
