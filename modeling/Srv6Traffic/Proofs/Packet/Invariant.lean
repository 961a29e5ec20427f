import Srv6Traffic.Proofs.Packet.Routing

/-! What holds of every routing header. A header is built from a list of segments or read from the octets of
a slice. Here both go on bare fields, with every cast to an octet where it is made and everything asserted
of a header checked. No header that comes of it breaks the bounds which its use relies on. -/
namespace Srv6Traffic
open Header Header.SegmentRouting

namespace BareRouting
variable {r : BareRouting} {p : NextHeader} {flags : UInt8} {tag : UInt16} {segments : List Ipv6Address}

/-- The last entry, which is the number of segments left too, is cast from the length of the list. -/
def build (p : NextHeader) (flags : UInt8) (tag : UInt16) (segments : List Ipv6Address) :
    Except (Fault ⊕ BuildError) BareRouting :=
  if segments = [] then .error (.inr .noSegments)
  else if maxSegments < segments.length then .error (.inr .tooManySegments)
  else if segments.length < 1 then .error (.inl .overflow)
  else
    let lastEntry : UInt8 := .ofNat (segments.length - 1)
    let r : BareRouting := ⟨p, lastEntry, lastEntry, flags, tag, segments⟩
    if r.Valid then .ok r else .error (.inl .invariant)

def size (r : BareRouting) : Nat := fixedSize + segmentSize * r.segments.length

def extLength (r : BareRouting) : UInt8 := .ofNat (segmentSize * r.segments.length / 8)

def activeSegment (r : BareRouting) : Except Fault Ipv6Address :=
  match r.segments[r.segmentsLeft.toNat]? with
  | some segment => .ok segment
  | none => .error .range

theorem valid_bare (h : SegmentRouting) : h.bare.Valid :=
  ⟨List.ne_nil_of_length_pos (Nat.zero_lt_of_lt h.left_lt), h.length_le, h.toNat_lastEntry,
    h.left_le_lastEntry⟩

/-- What is asserted of a header is all that its type promises. -/
theorem exists_bare (valid : r.Valid) : ∃ h : SegmentRouting, r.header? = some h ∧ h.bare = r := by
  obtain ⟨h, parts⟩ := exists_header valid
  obtain ⟨nextHeader, left, flags, tag, segments⟩ := eq_of_ofParts? parts
  have count := h.toNat_lastEntry
  have last : h.lastEntry = r.lastEntry := by
    rw [segments, ← valid.2.2.1] at count
    exact UInt8.toNat_inj.1 (Nat.succ_inj.1 count)
  exact ⟨h, parts, by simp only [SegmentRouting.bare, nextHeader, left, last, flags, tag, segments]⟩

@[simp] theorem size_bare (h : SegmentRouting) : h.bare.size = h.size := rfl

@[simp] theorem extLength_bare (h : SegmentRouting) : h.bare.extLength = h.extLength := by
  simp only [extLength, SegmentRouting.extLength, SegmentRouting.bare, units_eq]

@[simp] theorem activeSegment_bare (h : SegmentRouting) : h.bare.activeSegment = .ok h.activeSegment := by
  simp only [activeSegment, SegmentRouting.bare, List.getElem?_eq_getElem h.left_lt]
  rfl

/-- What the builder gives as the bare one shows it: no outcome is a fault. -/
def built : Except BuildError SegmentRouting → Except (Fault ⊕ BuildError) BareRouting
  | .ok h => .ok h.bare
  | .error e => .error (.inr e)

theorem built_ne_fault (outcome : Except BuildError SegmentRouting) (fault : Fault) :
    built outcome ≠ .error (.inl fault) := by
  intro same
  cases outcome with
  | ok h => cases same
  | error e => cases same

theorem build_eq (p : NextHeader) (flags : UInt8) (tag : UInt16) (segments : List Ipv6Address) :
    build p flags tag segments = built (SegmentRouting.build p flags tag segments) := by
  by_cases none : segments = []
  · simp only [build, SegmentRouting.build, none, if_true, built]
  · by_cases many : maxSegments < segments.length
    · simp only [build, none, many, if_true, if_false, build_of_many many, built]
    · obtain ⟨h, done, fresh⟩ := @build_of_few p flags tag segments none (Nat.le_of_not_lt many)
      have pos : ¬segments.length < 1 := Nat.not_lt.2 (List.length_pos_iff.2 none)
      have same : h.bare =
          ⟨p, .ofNat (segments.length - 1), .ofNat (segments.length - 1), flags, tag, segments⟩ := by
        simp only [SegmentRouting.bare, fresh.segmentsLeft, SegmentRouting.lastEntry, fresh.nextHeader,
          fresh.flags, fresh.tag, fresh.segments]
      have valid := valid_bare h
      rw [same] at valid
      simp only [build, none, many, pos, if_false, valid, if_true, done, built, same]

end BareRouting

namespace TrappingDecoder

/-- A routing header as it is read, with what is asserted of it checked at the end. -/
def bareRouting : TrappingDecoder BareRouting := do
  let r ← pop BareRouting.read
  demand .invariant r.Valid
  return r

theorem routing_eq : routing = (do
    let r ← bareRouting
    match r.header? with
    | some h => return h
    | none => throw (.inl .invariant)) := by
  simp only [routing, bareRouting, bind_assoc]
  rfl

theorem valid_of_bareRouting {s rest : BareSlice} {r : BareRouting} (done : bareRouting s = .ok r rest) :
    r.Valid := by
  cases popped : pop BareRouting.read s with
  | error e s' =>
    rw [bareRouting, bind_of_error popped] at done
    cases done
  | ok r' s' =>
    rw [bareRouting, bind_of_ok popped] at done
    by_cases valid : r'.Valid
    · rw [bind_of_ok (demand_of_holds _ valid _)] at done
      cases done
      exact valid
    · rw [bind_of_error (demand_of_fails _ valid _)] at done
      cases done

/-- It gives the bare fields of what the decoder gives, and what it asserts is never wrong. -/
theorem follows_bareRouting : Follows bareRouting Decoder.routing SegmentRouting.bare := by
  intro s
  have follows := follows_routing s
  cases happens : bareRouting s.bare with
  | error e rest =>
    rw [routing_eq, bind_of_error happens] at follows
    cases decoded : Decoder.routing s with
    | error field left =>
      rw [decoded] at follows
      cases follows
      rfl
    | ok h left =>
      rw [decoded] at follows
      cases follows
  | ok r rest =>
    obtain ⟨h, parts, same⟩ := BareRouting.exists_bare (valid_of_bareRouting happens)
    rw [routing_eq, bind_of_ok happens, parts] at follows
    cases decoded : Decoder.routing s with
    | error field left =>
      rw [decoded] at follows
      cases follows
    | ok h' left =>
      rw [decoded] at follows
      cases follows
      rw [← same]
      rfl

end TrappingDecoder

namespace BareRouting
variable {r : BareRouting}

/-- The headers that there are for a caller. -/
inductive Obtained : BareRouting → Prop
  | built {p : NextHeader} {flags : UInt8} {tag : UInt16} {segments : List Ipv6Address} {r : BareRouting}
      (done : build p flags tag segments = .ok r) : Obtained r
  | read {s : Slice} {r : BareRouting} {rest : BareSlice}
      (done : TrappingDecoder.bareRouting s.bare = .ok r rest) : Obtained r

theorem Obtained.valid (obtained : Obtained r) : r.Valid := by
  cases obtained with
  | @built p flags tag segments _ done =>
    rw [build_eq] at done
    cases happens : SegmentRouting.build p flags tag segments with
    | error e =>
      rw [happens] at done
      cases done
    | ok h =>
      rw [happens] at done
      cases done
      exact valid_bare h
  | read done => exact TrappingDecoder.valid_of_bareRouting done

/-- What is relied on wherever a header is used. -/
structure Bounded (r : BareRouting) : Prop where
  some : 1 ≤ r.segments.length
  few : r.segments.length ≤ 127
  lastEntry : r.lastEntry.toNat + 1 = r.segments.length
  segmentsLeft : r.segmentsLeft ≤ r.lastEntry
  extLength : r.extLength.toNat = 2 * r.segments.length
  size : r.size = 8 + 8 * r.extLength.toNat
  active : ∃ inside : r.segmentsLeft.toNat < r.segments.length,
    r.activeSegment = .ok r.segments[r.segmentsLeft.toNat]
  written : ∃ bytes, r.write = .ok bytes ∧ bytes.length = r.size
  prepended : ∀ (w : Writer) (fault : Fault) (left : BareWriter),
    (Editing.prependRouting r).run w.bare ≠ .error (.inl fault) left

theorem bounded_bare (h : SegmentRouting) : h.bare.Bounded where
  some := Nat.zero_lt_of_lt h.left_lt
  few := h.length_le
  lastEntry := h.toNat_lastEntry
  segmentsLeft := h.left_le_lastEntry
  extLength := by
    rw [extLength_bare, h.toNat_extLength]
    rfl
  size := by
    rw [extLength_bare, h.toNat_extLength, size_bare, SegmentRouting.size, fixedSize, segmentSize]
    omega
  active := ⟨h.left_lt, activeSegment_bare h⟩
  written := ⟨h.encode, write_bare h, h.length_encode⟩
  prepended := by
    intro w fault left done
    rw [Editing.prependRouting_bare] at done
    cases made : w.prepend? h.encode with
    | none =>
      rw [made] at done
      cases done
    | some w' =>
      rw [made] at done
      cases done

end BareRouting
open BareRouting

/-- Every routing header that is built or read keeps to its bounds, so no cast cuts anything short, no octet,
slice or segment is looked up out of range, and nothing asserted of it is wrong. A list of segments is refused
just when it is empty or has more than 127 of them. -/
theorem routing_invariant :
    (∀ r, Obtained r → r.Bounded) ∧
      (∀ (p : NextHeader) (flags : UInt8) (tag : UInt16) (segments : List Ipv6Address),
        BareRouting.build p flags tag segments = built (SegmentRouting.build p flags tag segments) ∧
          (∀ fault, BareRouting.build p flags tag segments ≠ .error (.inl fault)) ∧
          (SegmentRouting.build p flags tag segments = .error .noSegments ↔ segments = []) ∧
          (SegmentRouting.build p flags tag segments = .error .tooManySegments ↔ 127 < segments.length) ∧
          ((∃ h, SegmentRouting.build p flags tag segments = .ok h) ↔
            1 ≤ segments.length ∧ segments.length ≤ 127)) ∧
      ∀ s : Slice,
        TrappingDecoder.bareRouting s.bare = TrappingDecoder.shown SegmentRouting.bare (Decoder.routing s) ∧
          ∀ trap rest, TrappingDecoder.bareRouting s.bare ≠ .error (.inl trap) rest := by
  refine ⟨?_, ?_, ?_⟩
  · intro r obtained
    obtain ⟨h, _, rfl⟩ := exists_bare obtained.valid
    exact bounded_bare h
  · intro p flags tag segments
    have same := build_eq p flags tag segments
    refine ⟨same, fun fault => same ▸ built_ne_fault _ fault, ?_⟩
    by_cases none : segments = []
    · simp [none, SegmentRouting.build]
    · have pos : 1 ≤ segments.length := List.length_pos_iff.2 none
      by_cases many : 127 < segments.length
      · simp [build_of_many many, none, many]
      · obtain ⟨h, done, _⟩ := @build_of_few p flags tag segments none (Nat.le_of_not_lt many)
        simp [done, none, many, pos, Nat.le_of_not_lt many]
  · intro s
    have follows := TrappingDecoder.follows_bareRouting s
    exact ⟨follows, fun trap rest => follows ▸ TrappingDecoder.shown_ne_trap _ _ trap rest⟩

/-- A list of as many segments as there can be. -/
def sampleMost : List Ipv6Address := .replicate 127 (.ofGroups 0xfc00 9 0 0 0 0 0 9)

/-- A header of two segments, the first of which has been visited. -/
def sampleVisited : SegmentRouting :=
  ⟨.ipv6, 0, 7, 258, [.ofGroups 257 257 257 257 257 257 257 257, .ofGroups 514 514 514 514 514 514 514 514],
    by decide, by decide⟩

/-- The longest header that can be built, and one that is read with fewer segments left than its last entry. -/
theorem invariant_sample :
    (∃ r, BareRouting.build .udp 0 0 sampleMost = .ok r ∧ r.segments.length = 127 ∧
        r.size = 8 + 8 * r.extLength.toNat) ∧
      ∃ rest, TrappingDecoder.bareRouting (Slice.ofBytes 0 sampleRouting).bare = .ok sampleVisited.bare rest ∧
        sampleVisited.bare.segmentsLeft < sampleVisited.bare.lastEntry ∧
        sampleVisited.bare.size = 8 + 8 * sampleVisited.bare.extLength.toNat := by
  obtain ⟨bounds, _, reads⟩ := routing_invariant
  have longest : BareRouting.build .udp 0 0 sampleMost = .ok ⟨.udp, 126, 126, 0, 0, sampleMost⟩ := by
    simp [BareRouting.build, BareRouting.Valid, sampleMost, maxSegments]
  have shown : (Slice.ofBytes 0 sampleRouting).data = sampleVisited.encode ++ [5, 6] := Slice.data_ofBytes ..
  obtain ⟨left, decoded, _⟩ := Decoder.routing_of_append shown
  obtain ⟨read, _⟩ := reads (.ofBytes 0 sampleRouting)
  rw [decoded] at read
  have bounded := bounds _ (.built longest)
  exact ⟨⟨_, longest, List.length_replicate, bounded.size⟩, left.bare, read, by decide,
    (bounds _ (.read read)).size⟩

end Srv6Traffic
