import Srv6Traffic.Proofs.Packet.Routing

/-! Why a routing header is refused. The field that an error names is told by the octets and their places
alone, for every octet string. A header that is cut off is refused for the first field that is not there as
a whole, and one with a wrong octet among its first five for the check that gets to the damage first. -/
namespace Srv6Traffic
open Header Header.SegmentRouting

section
variable (bytes : Bytes)

theorem octetAt_take {i k : Nat} (inside : i < k) : octetAt (bytes.take k) i = octetAt bytes i := by
  simp [octetAt, List.getElem?_take_of_lt inside]

theorem octetAt_set {i : Nat} (inside : i < bytes.length) (b : UInt8) (k : Nat) :
    octetAt (bytes.set i b) k = if k = i then b.toNat else octetAt bytes k := by
  by_cases here : k = i
  · simp [octetAt, here, inside]
  · simp [octetAt, here, List.getElem?_set_ne (Ne.symm here)]

end

namespace Reader

theorem octet_drop (bytes : Bytes) (i : Nat) : octet (bytes.drop i) =
    if bytes.length ≤ i then none else some (bytes.getD i 0, bytes.drop (i + 1)) := by
  by_cases ended : bytes.length ≤ i
  · rw [List.drop_of_length_le ended, if_pos ended]
    rfl
  · have inside : i < bytes.length := Nat.lt_of_not_le ended
    rw [List.drop_eq_getElem_cons inside, if_neg ended, octet_cons, List.getD_eq_getElem?_getD,
      List.getElem?_eq_getElem inside, Option.getD_some]

theorem word_drop (bytes : Bytes) (i : Nat) : word (bytes.drop i) =
    if bytes.length ≤ i + 1 then none
    else some (Word.ofOctets (bytes.getD i 0) (bytes.getD (i + 1) 0), bytes.drop (i + 2)) := by
  rw [word, bind_eq, octet_drop]
  by_cases ended : bytes.length ≤ i
  · rw [if_pos ended, if_pos (Nat.le_succ_of_le ended)]
    rfl
  · rw [if_neg ended, Option.bind_some, bind_eq, octet_drop]
    split <;> rfl

end Reader

namespace FieldReader
variable {α β : Type} {field : Field} {bytes : Bytes} {c : Prop} [Decidable c]

theorem need_bind {read : Reader β} {b : β} {rest : Bytes}
    (stands : read bytes = if c then none else some (b, rest)) (next : β → FieldReader α) :
    (need field read >>= next) bytes = if c then .error field else next b rest := by
  rw [bind_eq, need, stands]
  by_cases h : c
  · simp only [h, if_true]
    rfl
  · simp only [h, if_false]
    rfl

theorem check_bind (next : Unit → FieldReader α) (bytes : Bytes) :
    (check field (decide c) >>= next) bytes = if ¬c then .error field else next () bytes := by
  by_cases h : c
  · simp only [h, decide_true, not_true, if_false]
    rfl
  · simp only [h, decide_false, not_false_eq_true, if_true]
    rfl

/-- A reader that stops where a list of checks names a field, and for that field. -/
theorem error_of_ite {named : Field} {next : Option Field} {result : Except Field α}
    (found : (if c then some named else next) = some field)
    (later : next = some field → result = .error field) :
    (if c then .error named else result) = .error field := by
  by_cases h : c
  · rw [if_pos h] at found ⊢
    cases found
    rfl
  · rw [if_neg h] at found ⊢
    exact later found

end FieldReader

namespace Header

namespace NextHeader
variable {bytes : Bytes}

/-- The numbers of the protocols that a routing header may announce. -/
def Known (n : Nat) : Prop := n = 4 ∨ n = 17 ∨ n = 41 ∨ n = 43

instance (n : Nat) : Decidable (Known n) := inferInstanceAs (Decidable (_ ∨ _))

theorem known_number (p : NextHeader) : Known p.number.toNat := exists_number_iff.1 ⟨p, rfl⟩

theorem read_of_unknown (unknown : ¬Known (octetAt bytes 0)) : read bytes = none := by
  cases done : read bytes with
  | none => rfl
  | some r =>
    rw [read_eq_some_iff.1 done] at unknown
    exact absurd r.1.known_number unknown

theorem exists_read (known : Known (octetAt bytes 0)) : ∃ p, read bytes = some (p, bytes.drop 1) := by
  obtain ⟨p, announced⟩ := exists_number_iff.2 known
  refine ⟨p, read_eq_some_iff.2 ?_⟩
  cases bytes with
  | nil => cases p <;> contradiction
  | cons b rest => rw [← UInt8.toNat_inj.1 announced]; rfl

end NextHeader

namespace SegmentRouting
open FieldReader
variable {bytes rest : Bytes} {field : Field}

/-- The field that octets are refused for as a routing header, if they are. The checks come in the order in
which the decoder gets to them: the two lengths are compared before the flags are read. -/
def refusal? (bytes : Bytes) : Option Field :=
  if ¬NextHeader.Known (octetAt bytes 0) then some .nextHeader
  else if bytes.length ≤ 1 then some .hdrExtLen
  else if bytes.length ≤ 2 then some .routingType
  else if ¬octetAt bytes 2 = 4 then some .routingType
  else if bytes.length ≤ 3 then some .segmentsLeft
  else if bytes.length ≤ 4 then some .lastEntry
  else if ¬octetAt bytes 3 ≤ octetAt bytes 4 then some .segmentsLeft
  else if ¬octetAt bytes 1 = 2 * (octetAt bytes 4 + 1) then some .hdrExtLen
  else if bytes.length ≤ 5 then some .flags
  else if bytes.length ≤ 7 then some .tag
  else if bytes.length < 8 + 16 * (octetAt bytes 4 + 1) then some .segments
  else none

theorem refusal?_eq_none_iff : refusal? bytes = none ↔ RoutingGrammar bytes := by
  simp only [refusal?, Headers.ite_some_eq_none_iff, Decidable.not_not, and_true]
  constructor
  · intro ⟨known, _, _, kind, _, _, left, suits, _, _, long⟩
    exact ⟨by omega, known, kind, left, suits, by omega⟩
  · intro grammar
    have long := grammar.segments
    exact ⟨grammar.nextHeader, by omega, by omega, grammar.routingType, by omega, by omega,
      grammar.segmentsLeft, grammar.extLength, by omega, by omega, by omega⟩

theorem times_readSegment_of_short {n : Nat} (short : bytes.length < 16 * n) :
    Reader.times readSegment n bytes = none := by
  cases done : Reader.times readSegment n bytes with
  | none => rfl
  | some r =>
    obtain ⟨count, there⟩ := (Reader.times_eq_some_iff readSegment_eq_some_iff).1 done
    rw [there, List.length_append, length_segments, count] at short
    omega

/-- Each check of the list is one step of the reader. -/
theorem read_of_refusal (found : refusal? bytes = some field) : read bytes = .error field := by
  by_cases known : NextHeader.Known (octetAt bytes 0)
  · obtain ⟨p, first⟩ := NextHeader.exists_read known
    have kind : bytes.getD 2 0 = routingType ↔ octetAt bytes 2 = 4 := UInt8.toNat_inj.symm
    have left : bytes.getD 3 0 ≤ bytes.getD 4 0 ↔ octetAt bytes 3 ≤ octetAt bytes 4 :=
      UInt8.le_iff_toNat_le
    rw [read, bind_eq, need_eq_ok_iff.2 first]
    simp only [Except.bind, need_bind (Reader.octet_drop _ _), need_bind (Reader.word_drop _ _), check_bind,
      Nat.reduceAdd, kind, left]
    rw [refusal?, if_neg (not_not_intro known)] at found
    iterate 9 refine error_of_ite found fun found => ?_
    obtain ⟨short, found⟩ : bytes.length < 8 + 16 * (octetAt bytes 4 + 1) ∧ Field.segments = field := by
      simpa using found
    have behind : (bytes.drop 8).length < 16 * ((bytes.getD 4 0).toNat + 1) := by
      change (bytes.drop 8).length < 16 * (octetAt bytes 4 + 1)
      rw [List.length_drop]
      omega
    rw [bind_eq, need_eq_error_iff.2 ⟨times_readSegment_of_short behind, found⟩]
    rfl
  · have first := NextHeader.read_of_unknown known
    rw [refusal?, if_pos known] at found
    rw [read, bind_eq, need_eq_error_iff.2 ⟨first, Option.some.inj found⟩]
    rfl

theorem read_eq_error_iff : read bytes = .error field ↔ refusal? bytes = some field := by
  constructor
  · intro failed
    cases found : refusal? bytes with
    | none =>
      obtain ⟨h, rest, split⟩ := exists_front (refusal?_eq_none_iff.1 found)
      rw [read_eq_ok_iff.2 split] at failed
      contradiction
    | some named =>
      rw [read_of_refusal found] at failed
      rw [Except.error.inj failed]
  · exact read_of_refusal

/-- The first field that is not there as a whole in so many octets. -/
def missing : Nat → Field
  | 0 => .nextHeader
  | 1 => .hdrExtLen
  | 2 => .routingType
  | 3 => .segmentsLeft
  | 4 => .lastEntry
  | 5 => .flags
  | 6 | 7 => .tag
  | _ => .segments

example : (List.range 9).map (fun k => (missing k).name) = ["next_header", "hdr_ext_len", "routing_type",
    "segments_left", "last_entry", "flags", "tag", "tag", "segments"] := rfl

/-- Cut off before its end, a header is refused for what is missing: all that is still there passes. -/
theorem refusal?_take (grammar : RoutingGrammar bytes) {k : Nat}
    (short : k < 8 + 16 * (octetAt bytes 4 + 1)) :
    refusal? (bytes.take k) = some (missing k) := by
  have known : NextHeader.Known (octetAt bytes 0) := grammar.nextHeader
  have length : (bytes.take k).length = k := List.length_take_of_le (by have := grammar.segments; omega)
  have kept {i : Nat} (inside : i < k) := octetAt_take bytes inside
  match k with
  | 0 => rfl
  | 1 | 2 => simp [refusal?, missing, length, kept, known]
  | 3 | 4 => simp [refusal?, missing, length, kept, known, grammar.routingType]
  | 5 | 6 | 7 =>
    simp [refusal?, missing, length, kept, known, grammar.routingType, grammar.segmentsLeft,
      grammar.extLength]
  | k + 8 =>
    simp [refusal?, missing, length, kept, known, grammar.routingType, grammar.segmentsLeft,
      grammar.extLength]
    omega

/-- The field that a header is refused for when one of its first five octets is `b` instead. -/
def blamed? (h : SegmentRouting) (b : UInt8) : Nat → Option Field
  | 0 => if NextHeader.Known b.toNat then none else some .nextHeader
  | 1 => if b = h.extLength then none else some .hdrExtLen
  | 2 => if b = 4 then none else some .routingType
  | 3 => if h.lastEntry < b then some .segmentsLeft else none
  | 4 => if b < h.segmentsLeft then some .segmentsLeft else if b = h.lastEntry then none else some .hdrExtLen
  | _ => none

/-- Where the fixed octets are all there, it is their values that decide, and then the length. -/
theorem refusal?_of_fixed (fixed : 8 ≤ bytes.length) : refusal? bytes =
    if ¬NextHeader.Known (octetAt bytes 0) then some .nextHeader
    else if ¬octetAt bytes 2 = 4 then some .routingType
    else if ¬octetAt bytes 3 ≤ octetAt bytes 4 then some .segmentsLeft
    else if ¬octetAt bytes 1 = 2 * (octetAt bytes 4 + 1) then some .hdrExtLen
    else if bytes.length < 8 + 16 * (octetAt bytes 4 + 1) then some .segments
    else none := by
  have there {n : Nat} (below : n < 8) : ¬bytes.length ≤ n := by omega
  simp only [refusal?, there, Nat.reduceLT, if_false]

theorem refusal?_set {h : SegmentRouting} (split : bytes = h.encode ++ rest) {i : Nat} (first : i < 5)
    (b : UInt8) :
    refusal? (bytes.set i b) = h.blamed? b i := by
  have stand : h.StandsAt bytes 0 := standsAt split
  have grammar := grammar_of_front split
  have known : NextHeader.Known (octetAt bytes 0) := grammar.nextHeader
  have fixed := grammar.fixed
  have long := Nat.not_lt.2 grammar.segments
  have kept (k : Nat) := octetAt_set bytes (by omega : i < bytes.length) b k
  rw [refusal?_of_fixed (by simpa using fixed)]
  match i with
  | 0 => simp [blamed?, kept, grammar.routingType, grammar.segmentsLeft, grammar.extLength, long]
  | 1 =>
    have same : b.toNat = 2 * (octetAt bytes 4 + 1) ↔ b = h.extLength := by
      rw [← grammar.extLength, stand.extLength, UInt8.toNat_inj]
    simp [blamed?, kept, known, grammar.routingType, grammar.segmentsLeft, long, same]
  | 2 =>
    have same : b.toNat = 4 ↔ b = 4 := UInt8.toNat_inj (b := 4)
    simp [blamed?, kept, known, grammar.segmentsLeft, grammar.extLength, long, same]
  | 3 =>
    have beyond : octetAt bytes 4 < b.toNat ↔ h.lastEntry < b := by
      rw [stand.lastEntry, UInt8.lt_iff_toNat_lt]
    simp [blamed?, kept, known, grammar.routingType, grammar.extLength, long, beyond]
  | 4 =>
    have below : b.toNat < octetAt bytes 3 ↔ b < h.segmentsLeft := by
      rw [stand.segmentsLeft, UInt8.lt_iff_toNat_lt]
    have same : b = h.lastEntry ↔ octetAt bytes 4 = b.toNat := by
      rw [stand.lastEntry, UInt8.toNat_inj, eq_comm]
    by_cases here : octetAt bytes 4 = b.toNat
    · have above : ¬b < h.segmentsLeft := mt below.2 (here ▸ Nat.not_lt.2 grammar.segmentsLeft)
      simp [blamed?, kept, known, grammar.routingType, grammar.segmentsLeft, grammar.extLength, long, same,
        ← here, above]
    · have apart : ¬2 * (octetAt bytes 4 + 1) = 2 * (b.toNat + 1) := by omega
      simp [blamed?, kept, known, grammar.routingType, grammar.extLength, same, here, below, apart]

end SegmentRouting
end Header

namespace Decoder
open Header.SegmentRouting
variable {s left : Slice} {field : Field}

/-- The decoder refuses what the reader refuses, and leaves it where it is. -/
theorem routing_eq_error_iff : routing s = .error field left ↔ left = s ∧ refusal? s.data = some field := by
  obtain ⟨cause, unread, failed⟩ | ⟨h, rest, read, done, _⟩ := pop_cases takes .segments s
  · rw [routing, failed, ← read_eq_error_iff, unread]
    simp [eq_comm, and_comm]
  · rw [routing, done, ← read_eq_error_iff, read]
    simp

end Decoder

/-- A header that is cut off is refused for the first field that is missing, and one with a wrong octet among
its first five, whatever comes behind it, for just that. The slice stays as it is. -/
theorem refusals_name_field (h : SegmentRouting) :
    (∀ (s : Slice) (k : Nat), k < h.encode.length → s.data = h.encode.take k →
      Decoder.routing s = .error (missing k) s) ∧
    ∀ (s : Slice) (rest : Bytes) (i : Nat) (b : UInt8), i < 5 → s.data = (h.encode ++ rest).set i b →
      ∀ field left, Decoder.routing s = .error field left ↔ left = s ∧ h.blamed? b i = some field := by
  constructor
  · intro s k short shown
    have split : h.encode = h.encode ++ [] := (List.append_nil _).symm
    rw [h.length_encode, size_eq_of_front split] at short
    rw [Decoder.routing_eq_error_iff, shown, refusal?_take (grammar_of_front split) short]
    exact ⟨rfl, rfl⟩
  · intro s rest i b first shown field left
    rw [Decoder.routing_eq_error_iff, shown, refusal?_set rfl first]

/-- A header of two segments that have both still to be visited. -/
def sampleTwo : SegmentRouting :=
  ⟨.ipInIp, 1, 0, 0, [.ofGroups 0xfc00 9 0 0 0 0 0 9, .ofGroups 0xfc00 8 0 0 0 0 0 8], by decide, by decide⟩

/-- Without the second octet of its tag, and with a last entry that is below the segments left, or above what
the length says. -/
theorem refusals_sample :
    (∃ s, Decoder.routing (.ofBytes 0 (sampleTwo.encode.take 7)) = .error .tag s) ∧
    (∃ s, Decoder.routing (.ofBytes 0 ((sampleTwo.encode ++ [9]).set 4 0)) = .error .segmentsLeft s) ∧
    ∃ s, Decoder.routing (.ofBytes 0 ((sampleTwo.encode ++ [9]).set 4 255)) = .error .hdrExtLen s := by
  obtain ⟨cut, damaged⟩ := refusals_name_field sampleTwo
  have changed (b : UInt8) (field : Field) (blame : sampleTwo.blamed? b 4 = some field) :
      Decoder.routing (.ofBytes 0 ((sampleTwo.encode ++ [9]).set 4 b)) = .error field (.ofBytes 0 _) :=
    (damaged _ [9] 4 b (by decide) (Slice.data_ofBytes ..) field _).2 ⟨rfl, blame⟩
  exact ⟨⟨_, cut _ 7 (by decide) (Slice.data_ofBytes ..)⟩, ⟨_, changed 0 .segmentsLeft (by decide)⟩,
    ⟨_, changed 255 .hdrExtLen (by decide)⟩⟩

end Srv6Traffic
