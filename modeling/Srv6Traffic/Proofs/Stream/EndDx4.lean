import Mathlib.Algebra.Group.Int.Defs
import Mathlib.Data.List.Forall2
import Srv6Traffic.Proofs.Packet.RoundTrip
import Srv6Traffic.Proofs.Template.Influence
import Srv6Traffic.Stream.EndDx4

/-! What the End.DX4 profile gives out: one frame, as often as asked for. Two calls take different buffers,
so what they give out is compared by the octets. -/
namespace Srv6Traffic

/-- A frame of a template can be decoded, to the packet that it carries. -/
theorem Frame.Carries.decodes {f : Frame} {t : Template} {p : Packet} (c : f.Carries t p) :
    ∃ q, f.decode = .ok q ∧ q.headers = p.headers ∧ q.payload.data = p.payload.data := by
  obtain ⟨q, rest, done, headers, payload, _⟩ := Packet.decode_of_agree p.agree c.frames
  refine ⟨q, ?_, headers, payload⟩
  rw [Frame.decode, done]

/-- Equal streams, as the program compares them: frames may lie in different buffers. -/
structure Stream.Same (a b : Stream) : Prop where
  frame : (a.frame == b.frame) = true
  mode : a.mode = b.mode

/-- Equal outcomes of two calls: the same error, or streams that are equal one by one. -/
inductive SameOutcome : Except ProfileError (List Stream) → Except ProfileError (List Stream) → Prop
  | error (e : ProfileError) : SameOutcome (.error e) (.error e)
  | ok {given given' : List Stream} (streams : List.Forall₂ Stream.Same given given') :
      SameOutcome (.ok given) (.ok given')

namespace EndDx4
variable {t : Template} {serial serial' : Nat} {length : Int64}

/-- Taking off four octets stops at the least integer there is. -/
theorem toInt_lengthWithoutCheck (length : Int64) : (lengthWithoutCheck length).toInt =
    max (-2 ^ 63) (min (2 ^ 63 - 1) (length.toInt - 4)) := by
  rw [lengthWithoutCheck, Signed.toInt_saturatingSub, Int64.toInt_minValue, Int64.toInt_maxValue]
  rfl

theorem value_streams (t : Template) (serial : Nat) (o : StreamOptions) : (streams t serial o).value =
    (createStreams t serial (lengthWithoutCheck o.packetLength) o.streamCount).value := by
  rw [streams, Traced.value_bind]

theorem createStreams_of_frame {f : Frame} (made : (t.build serial length).value = .ok f) (count : Nat) :
    (createStreams t serial length count).value = .ok (.replicate count ⟨f, .continuous⟩) := by
  rw [createStreams, Traced.value_bind, made]
  rfl

theorem createStreams_of_error {cause : Template.BuildError}
    (failed : (t.build serial length).value = .error cause) (count : Nat) :
    (createStreams t serial length count).value = .error (.template cause) := by
  rw [createStreams, Traced.value_bind, failed]
  rfl

theorem same_replicate {f g : Frame} (same : (f == g) = true) (mode : TransmitMode) (count : Nat) :
    List.Forall₂ Stream.Same (.replicate count ⟨f, mode⟩) (.replicate count ⟨g, mode⟩) := by
  induction count with
  | zero => exact .nil
  | succ count ih => exact .cons ⟨same, rfl⟩ ih

theorem createStreams_same (t : Template) (serial serial' : Nat) (length : Int64) (count : Nat) :
    SameOutcome (createStreams t serial length count).value (createStreams t serial' length count).value := by
  rcases Template.build_alike rfl serial serial' length with ⟨_, failed, failed'⟩ | ⟨f, g, made, made'⟩
  · rw [createStreams_of_error failed, createStreams_of_error failed']
    exact .error _
  · rw [createStreams_of_frame made, createStreams_of_frame made']
    exact .ok (same_replicate (Template.frames_beq made made') _ count)

/-- A call gives out as many streams as asked for, all of one frame, or the reason why the frame cannot be
built, which does not depend on the number of streams. The frame has the length asked for without the
frame check sequence, or that of the headers if that is more. -/
theorem streams_of_one_frame (t : Template) (serial : Nat) (o : StreamOptions) :
    ∃ length : Int64, length.toInt = max (-2 ^ 63) (min (2 ^ 63 - 1) (o.packetLength.toInt - 4)) ∧
      (∀ serial', SameOutcome (streams t serial o).value
        (createStreams t serial' length o.streamCount).value) ∧
      (t.segments.length = 0 → (streams t serial o).value = .error (.template .noSegments)) ∧
      (127 < t.segments.length → (streams t serial o).value = .error (.template .tooManySegments)) ∧
      (1 ≤ t.segments.length → t.segments.length ≤ 127 → 65589 < length.toInt →
        (streams t serial o).value = .error (.template .packetTooLarge)) ∧
      (1 ≤ t.segments.length → t.segments.length ≤ 127 → length.toInt ≤ 65589 →
        ∃ (given : List Stream) (f : Frame) (p : Packet),
          (streams t serial o).value = .ok given ∧ given.length = o.streamCount ∧
          (∀ s ∈ given, s.mode = .continuous ∧ s.frame = f) ∧
          (∀ a ∈ given, ∀ b ∈ given, a.frame.sharesBytes b.frame = true) ∧
          (∀ serial', ∃ g, (t.build serial' length).value = .ok g ∧ (g == f) = true) ∧
          (f.length : Int) = max length.toInt (90 + 16 * t.segments.length) ∧ f.decode = .ok p) := by
  rw [value_streams]
  refine ⟨lengthWithoutCheck o.packetLength, toInt_lengthWithoutCheck _, ?_, ?_, ?_, ?_, ?_⟩
  · intro serial'
    exact createStreams_same t serial serial' _ _
  · intro none
    exact createStreams_of_error (Template.build_of_nil (List.eq_nil_of_length_eq_zero none)) _
  · intro many
    exact createStreams_of_error (Template.build_of_many many) _
  · intro some few long
    exact createStreams_of_error (Template.build_of_long (List.ne_nil_of_length_pos some) few long) _
  · intro some few short
    have nonempty := List.ne_nil_of_length_pos some
    obtain ⟨f, made⟩ := t.exists_frame serial _ nonempty few short
    obtain ⟨padded, p, carries⟩ := Template.carries_of_build made
    obtain ⟨q, decoded, _⟩ := carries.decodes
    have one : ∀ s ∈ List.replicate o.streamCount (⟨f, .continuous⟩ : Stream),
        s.mode = .continuous ∧ s.frame = f := by
      intro s given
      rw [List.eq_of_mem_replicate given]
      exact ⟨rfl, rfl⟩
    have length := carries.length_eq
    rw [padded, Template.missing, t.unpaddedLength_eq] at length
    refine ⟨_, f, q, createStreams_of_frame made _, List.length_replicate, one, ?_, ?_, by omega, decoded⟩
    · intro a givenA b givenB
      rw [(one a givenA).2, (one b givenB).2]
      exact beq_self_eq_true _
    · intro serial'
      obtain ⟨g, made'⟩ := t.exists_frame serial' _ nonempty few short
      exact ⟨g, made', Template.frames_beq made' made⟩

/-- The least length there is, for two segments, and a length that no frame can have, for no stream. -/
theorem streams_sample :
    (∃ given, (streams { segments := [.ofGroups 0xfc00 9 0 0 0 0 0 9, .ofGroups 0xfc00 8 0 0 0 0 0 8] } 3
      { packetLength := Int64.minValue, streamCount := 2 }).value = .ok given ∧ given.length = 2 ∧
      ∀ s ∈ given, s.frame.length = 122) ∧
    (streams {} 0 { packetLength := 65594, streamCount := 0 }).value =
      .error (.template .packetTooLarge) := by
  obtain ⟨length, least, _, _, _, _, delivered⟩ := streams_of_one_frame
    { segments := [.ofGroups 0xfc00 9 0 0 0 0 0 9, .ofGroups 0xfc00 8 0 0 0 0 0 8] } 3
    { packetLength := Int64.minValue, streamCount := 2 }
  obtain ⟨length', value, _, _, _, tooLarge, _⟩ :=
    streams_of_one_frame {} 0 { packetLength := 65594, streamCount := 0 }
  replace least : length.toInt = -2 ^ 63 := least.trans (by decide)
  replace value : length'.toInt = 65590 := value.trans (by decide)
  obtain ⟨given, f, _, done, count, one, _, _, size, _⟩ := delivered (by decide) (by decide) (by omega)
  refine ⟨⟨given, done, count, ?_⟩, tooLarge (by decide) (by decide) (by omega)⟩
  intro s there
  rw [(one s there).2]
  rw [least] at size
  exact Int.ofNat_inj.1 (size.trans (by decide))

end EndDx4
end Srv6Traffic
