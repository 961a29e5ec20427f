import Srv6Traffic.Header.SegmentRouting
import Srv6Traffic.Proofs.Wire.Place
import Srv6Traffic.Proofs.Wire.Reading

/-! The segment routing header has exactly one form on the wire: its two derived lengths are written
as they are checked, so a header that can be read is written back octet by octet. A header is built
from every list of segments but the empty one and those too long for the length octet. -/
namespace Srv6Traffic.Header
variable {bytes rest : Bytes} {i : Nat}

namespace NextHeader

theorem ofNumber?_eq_some_iff {n : UInt8} {p : NextHeader} :
    ofNumber? n = some p ↔ n = p.number := by
  constructor
  · intro found
    unfold ofNumber? at found
    split at found
    · cases found
      assumption
    · split at found
      · cases found
        assumption
      · split at found
        · cases found
          assumption
        · split at found
          · cases found
            assumption
          · cases found
  · intro same
    rw [same, ofNumber?_number]

theorem read_eq_some_iff {p : NextHeader} :
    read bytes = some (p, rest) ↔ bytes = p.number :: rest := by
  constructor
  · intro done
    obtain ⟨n, _, first, done⟩ := Reader.bind_eq_some_iff.1 done
    obtain ⟨known, rfl⟩ := Reader.lift_eq_some_iff.1 done
    rw [Reader.octet_eq_some_iff.1 first, ofNumber?_eq_some_iff.1 known]
  · intro same
    rw [same]
    exact read_cons p rest

end NextHeader

namespace SegmentRouting

/-- The segments as they follow each other on the wire. -/
def encodeSegments (segments : List Ipv6Address) : Bytes :=
  segments.flatMap fun segment => segment.octets.val

theorem readSegment_eq_some_iff (bytes : Bytes) (segment : Ipv6Address) (rest : Bytes) :
    readSegment bytes = some (segment, rest) ↔ bytes = segment.octets.val ++ rest := by
  constructor
  · intro done
    obtain ⟨octets, first, rfl⟩ := Reader.map_eq_some_iff.1 done
    exact Reader.octets_eq_some_iff.1 first
  · intro same
    rw [same]
    exact readSegment_append segment rest

theorem eq_of_ofParts? {nextHeader : NextHeader} {left flags : UInt8} {tag : UInt16}
    {segments : List Ipv6Address} {h : SegmentRouting}
    (found : ofParts? nextHeader left flags tag segments = some h) :
    h.nextHeader = nextHeader ∧ h.segmentsLeft = left ∧ h.flags = flags ∧ h.tag = tag ∧
      h.segments = segments := by
  unfold ofParts? at found
  split at found
  · cases found
    exact ⟨rfl, rfl, rfl, rfl, rfl⟩
  · cases found

/-- The two derived octets are the only ones that suit the number of segments. -/
theorem encode_eq (h : SegmentRouting) {ext last : UInt8} (suits : ext.toNat = 2 * (last.toNat + 1))
    (count : h.segments.length = last.toNat + 1) :
    h.encode = h.nextHeader.number :: ext :: routingType :: h.segmentsLeft :: last :: h.flags ::
      (Word.encode h.tag ++ encodeSegments h.segments) := by
  have extLength : h.extLength = ext := by
    apply UInt8.toNat_inj.1
    rw [toNat_extLength, count, suits]
  have lastEntry : h.lastEntry = last := by
    have := h.toNat_lastEntry
    apply UInt8.toNat_inj.1
    omega
  rw [encode, extLength, lastEntry, encodeSegments]

theorem read_eq_ok_iff {h : SegmentRouting} :
    read bytes = .ok (h, rest) ↔ bytes = h.encode ++ rest := by
  constructor
  · intro done
    obtain ⟨nextHeader, _, read₁, done⟩ := FieldReader.bind_eq_ok_iff.1 done
    obtain ⟨ext, _, read₂, done⟩ := FieldReader.bind_eq_ok_iff.1 done
    obtain ⟨kind, _, read₃, done⟩ := FieldReader.bind_eq_ok_iff.1 done
    obtain ⟨_, _, check₁, done⟩ := FieldReader.bind_eq_ok_iff.1 done
    obtain ⟨left, _, read₄, done⟩ := FieldReader.bind_eq_ok_iff.1 done
    obtain ⟨last, _, read₅, done⟩ := FieldReader.bind_eq_ok_iff.1 done
    obtain ⟨_, _, check₂, done⟩ := FieldReader.bind_eq_ok_iff.1 done
    obtain ⟨_, _, check₃, done⟩ := FieldReader.bind_eq_ok_iff.1 done
    obtain ⟨flags, _, read₆, done⟩ := FieldReader.bind_eq_ok_iff.1 done
    obtain ⟨tag, _, read₇, done⟩ := FieldReader.bind_eq_ok_iff.1 done
    obtain ⟨segments, _, read₈, built⟩ := FieldReader.bind_eq_ok_iff.1 done
    obtain ⟨known, rfl⟩ := FieldReader.check_eq_ok_iff.1 check₁
    obtain ⟨_, rfl⟩ := FieldReader.check_eq_ok_iff.1 check₂
    obtain ⟨suits, rfl⟩ := FieldReader.check_eq_ok_iff.1 check₃
    rw [FieldReader.need_eq_ok_iff] at read₁ read₂ read₃ read₄ read₅ read₆ read₇ read₈ built
    obtain ⟨count, there⟩ := (Reader.times_eq_some_iff readSegment_eq_some_iff).1 read₈
    obtain ⟨parts, rfl⟩ := Reader.lift_eq_some_iff.1 built
    obtain ⟨rfl, rfl, rfl, rfl, rfl⟩ := eq_of_ofParts? parts
    rw [encode_eq h (of_decide_eq_true suits) count, ← of_decide_eq_true known,
      NextHeader.read_eq_some_iff.1 read₁, Reader.octet_eq_some_iff.1 read₂,
      Reader.octet_eq_some_iff.1 read₃, Reader.octet_eq_some_iff.1 read₄,
      Reader.octet_eq_some_iff.1 read₅, Reader.octet_eq_some_iff.1 read₆,
      Reader.word_eq_some_iff.1 read₇, there]
    simp [encodeSegments]
  · intro same
    rw [same]
    exact read_encode h rest

theorem segments_stand {segments : List Ipv6Address}
    (found : bytes.drop i = encodeSegments segments ++ rest) :
    (∀ k (inside : k < segments.length), cut bytes (i + 16 * k) 16 = segments[k].octets.val) ∧
      bytes.drop (i + 16 * segments.length) = rest := by
  induction segments generalizing i with
  | nil => exact ⟨fun k inside => absurd inside (Nat.not_lt_zero k), found⟩
  | cons segment segments ih =>
    rw [encodeSegments, List.flatMap_cons, List.append_assoc] at found
    obtain ⟨first, found⟩ := cut_of_drop found segment.octets.property
    obtain ⟨others, after⟩ := ih found
    constructor
    · intro k inside
      cases k with
      | zero => exact first
      | succ k =>
        have place : i + 16 * (k + 1) = i + 16 + 16 * k := by omega
        rw [place, others k (Nat.lt_of_succ_lt_succ inside), List.getElem_cons_succ]
    · rw [← after, List.length_cons]
      congr 1
      omega

/-- The fields stand in their places in the octets from `i` on, the derived ones included. -/
structure StandsAt (h : SegmentRouting) (bytes : Bytes) (i : Nat) : Prop where
  nextHeader : octetAt bytes i = h.nextHeader.number.toNat
  extLength : octetAt bytes (i + 1) = h.extLength.toNat
  routingType : octetAt bytes (i + 2) = 4
  segmentsLeft : octetAt bytes (i + 3) = h.segmentsLeft.toNat
  lastEntry : octetAt bytes (i + 4) = h.lastEntry.toNat
  flags : octetAt bytes (i + 5) = h.flags.toNat
  tag : wordAt bytes (i + 6) = h.tag.toNat
  segments : ∀ k (inside : k < h.segments.length),
    cut bytes (i + 8 + 16 * k) 16 = h.segments[k].octets.val

theorem standsAt {h : SegmentRouting} (found : bytes.drop i = h.encode ++ rest) :
    h.StandsAt bytes i := by
  simp only [encode, List.append_assoc, List.cons_append] at found
  obtain ⟨nextHeader, found⟩ := octetAt_of_drop found
  obtain ⟨extLength, found⟩ := octetAt_of_drop found
  obtain ⟨kind, found⟩ := octetAt_of_drop found
  obtain ⟨segmentsLeft, found⟩ := octetAt_of_drop found
  obtain ⟨lastEntry, found⟩ := octetAt_of_drop found
  obtain ⟨flags, found⟩ := octetAt_of_drop found
  obtain ⟨tag, found⟩ := wordAt_of_drop found
  obtain ⟨segments, _⟩ := segments_stand found
  exact ⟨nextHeader, extLength, kind, segmentsLeft, lastEntry, flags, tag, segments⟩

theorem exists_segments (n : Nat) (long : i + 16 * n ≤ bytes.length) :
    ∃ segments : List Ipv6Address, segments.length = n ∧
      bytes.drop i = encodeSegments segments ++ bytes.drop (i + 16 * n) := by
  induction n generalizing i with
  | zero => exact ⟨[], rfl, rfl⟩
  | succ n ih =>
    obtain ⟨segment, first⟩ := exists_octets 16 (by omega : i + 16 ≤ bytes.length)
    obtain ⟨segments, length, others⟩ := ih (by omega : i + 16 + 16 * n ≤ bytes.length)
    have place : i + 16 * (n + 1) = i + 16 + 16 * n := by omega
    refine ⟨⟨segment⟩ :: segments, by rw [List.length_cons, length], ?_⟩
    rw [first, others, place, encodeSegments, encodeSegments, List.flatMap_cons, List.append_assoc]

theorem exists_at {p : NextHeader} (announced : octetAt bytes i = p.number.toNat)
    (kind : octetAt bytes (i + 2) = 4) (left : octetAt bytes (i + 3) ≤ octetAt bytes (i + 4))
    (suits : octetAt bytes (i + 1) = 2 * (octetAt bytes (i + 4) + 1))
    (long : i + 8 + 16 * (octetAt bytes (i + 4) + 1) ≤ bytes.length) :
    ∃ h : SegmentRouting, h.nextHeader = p ∧
      bytes.drop i = h.encode ++ bytes.drop (i + 8 + 16 * (octetAt bytes (i + 4) + 1)) := by
  obtain ⟨b₀, at₀⟩ := exists_octet (by omega : i + 1 ≤ bytes.length)
  obtain ⟨b₁, at₁⟩ := exists_octet (by omega : i + 1 + 1 ≤ bytes.length)
  obtain ⟨b₂, at₂⟩ := exists_octet (by omega : i + 2 + 1 ≤ bytes.length)
  obtain ⟨b₃, at₃⟩ := exists_octet (by omega : i + 3 + 1 ≤ bytes.length)
  obtain ⟨b₄, at₄⟩ := exists_octet (by omega : i + 4 + 1 ≤ bytes.length)
  obtain ⟨b₅, at₅⟩ := exists_octet (by omega : i + 5 + 1 ≤ bytes.length)
  obtain ⟨tag, at₆⟩ := exists_word (by omega : i + 6 + 2 ≤ bytes.length)
  obtain ⟨segments, count, at₇⟩ := exists_segments (octetAt bytes (i + 4) + 1) long
  have ext := octetAt_lt bytes (i + 1)
  rw [(octetAt_of_drop at₀).1] at announced
  rw [(octetAt_of_drop at₂).1] at kind
  rw [(octetAt_of_drop at₃).1] at left
  rw [(octetAt_of_drop at₁).1] at suits ext
  rw [(octetAt_of_drop at₄).1] at left suits count at₇ ⊢
  have known : b₂ = routingType := UInt8.toNat_inj.1 kind
  let h : SegmentRouting := ⟨p, b₃, b₅, tag, segments, by omega, by omega⟩
  refine ⟨h, rfl, ?_⟩
  rw [encode_eq h suits count, at₀, at₁, at₂, at₃, at₄, at₅, at₆, at₇,
    UInt8.toNat_inj.1 announced, known]
  simp only [List.cons_append, List.append_assoc, h]

section
variable {p : NextHeader} {flags : UInt8} {tag : UInt16} {segments : List Ipv6Address}

/-- A header as its sender writes it, with every segment still to be visited. -/
structure Fresh (h : SegmentRouting) (p : NextHeader) (flags : UInt8) (tag : UInt16)
    (segments : List Ipv6Address) : Prop where
  nextHeader : h.nextHeader = p
  segmentsLeft : h.segmentsLeft = h.lastEntry
  flags : h.flags = flags
  tag : h.tag = tag
  segments : h.segments = segments

theorem build_of_many (many : 127 < segments.length) :
    build p flags tag segments = .error .tooManySegments := by
  have nonempty : segments ≠ [] := List.ne_nil_of_length_pos (by omega)
  rw [build, if_neg nonempty, ofParts?, dif_neg]
  intro fits
  exact Nat.not_le_of_gt many fits.2

/-- No list but the empty one and those of more than 127 segments is refused. -/
theorem build_of_few (nonempty : segments ≠ []) (few : segments.length ≤ 127) :
    ∃ h : SegmentRouting, build p flags tag segments = .ok h ∧ h.Fresh p flags tag segments := by
  have pos := List.length_pos_iff.2 nonempty
  have left : (UInt8.ofNat (segments.length - 1)).toNat < segments.length := by
    rw [UInt8.toNat_ofNat']
    omega
  refine ⟨⟨p, .ofNat (segments.length - 1), flags, tag, segments, left, few⟩, ?_, rfl, rfl, rfl, rfl, rfl⟩
  rw [build, if_neg nonempty, ofParts?, dif_pos ⟨left, few⟩]

theorem Fresh.size {h : SegmentRouting} (fresh : h.Fresh p flags tag segments) :
    h.size = 8 + 16 * segments.length := by
  rw [SegmentRouting.size, fresh.segments]
  rfl

/-- The last segment is the one to be visited first. -/
theorem Fresh.activeSegment {h : SegmentRouting} (fresh : h.Fresh p flags tag segments) :
    segments.getLast? = some h.activeSegment := by
  have last := h.toNat_lastEntry
  have place : h.segments.length - 1 = h.segmentsLeft.toNat := by
    rw [fresh.segmentsLeft]
    omega
  rw [← fresh.segments, List.getLast?_eq_getElem?, place, SegmentRouting.activeSegment,
    List.get_eq_getElem, List.getElem?_eq_getElem h.left_lt]

end

end SegmentRouting
end Srv6Traffic.Header
