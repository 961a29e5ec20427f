import Srv6Traffic.Proofs.Dictionary
import Srv6Traffic.Proofs.Stream.EndDx4
import Srv6Traffic.Proofs.Text.Order

/-! What a call of the End.DX4 profile records. Here every step is taken in its turn: a step that fails ends
the call, and the records made up to then stay. It comes to the same outcome and to the same records. Options
that the profile does not know show in the records alone, and the direction shows nowhere. -/
namespace Srv6Traffic

/-- Steps that may fail, and make their records as they go. -/
abbrev Journaling (ε : Type) := EStateM ε (List Record)

namespace Journaling
variable {ε α β : Type}

def note (r : Record) : Journaling ε Unit := modify fun records => records ++ [r]

def attempt : Except ε α → Journaling ε α
  | .ok a => pure a
  | .error e => throw e

theorem run_attempt_bind (result : Except ε α) (next : α → Journaling ε β) (before : List Record) :
    (attempt result >>= next).run before =
      match result with
      | .ok a => (next a).run before
      | .error e => .error e before := by
  cases result <;> rfl

theorem run_adaptExcept {ε' : Type} (f : ε → ε') (x : Journaling ε α) (before : List Record) :
    EStateM.run (x.adaptExcept f) before =
      match x.run before with
      | .ok a after => .ok a after
      | .error e after => .error (f e) after := by
  simp only [EStateM.run, EStateM.adaptExcept]
  cases x before <;> rfl

/-- An outcome with its records, behind those that were there before. -/
def shown (before : List Record) (x : Traced (Except ε α)) : EStateM.Result ε (List Record) α :=
  match x.value with
  | .ok a => .ok a (before ++ x.records)
  | .error e => .error e (before ++ x.records)

end Journaling
open Journaling

namespace Record

/-- The records of one level, in their order. -/
def atLevel (level : String) (records : List Record) : List Record :=
  records.filter fun r => r.level = level

@[simp] theorem atLevel_append (level : String) (these those : List Record) :
    atLevel level (these ++ those) = atLevel level these ++ atLevel level those := by
  simp [atLevel]

theorem atLevel_of_forall {level : String} {records : List Record} (all : ∀ r ∈ records, r.level = level) :
    atLevel level records = records := by
  simpa [atLevel] using all

theorem atLevel_of_forall_ne {level : String} {records : List Record}
    (none : ∀ r ∈ records, r.level ≠ level) : atLevel level records = [] := by
  simpa [atLevel] using none

end Record

/-- The record is made last, when nothing can fail any more. -/
def Template.buildInSteps (t : Template) (serial : Nat) (length : Int64) : Journaling BuildError Frame := do
  let padding ← attempt (t.paddingFor length)
  let headers ← attempt ((t.headers padding).mapError .ofHeader)
  let payload := Slice.ofBytes serial (.replicate padding t.filler)
  let packet ← attempt ((Packet.build headers payload).mapError .inconsistent)
  match packet.encode? with
  | none => throw .notEnoughSpace
  | some writer =>
    let frame : Frame := ⟨.whole ⟨serial + 1, writer⟩, padding⟩
    note (.templateBuilt frame.length frame.padding t.segments.length)
    return frame

namespace EndDx4

/-- The options are gone through one by one, before anything else is done. -/
def ignoreAll : List (String × String) → Journaling ProfileError Unit
  | [] => pure ()
  | (key, value) :: entries => do
    note (.optionIgnored name key value)
    ignoreAll entries

def streamsInSteps (t : Template) (serial : Nat) (o : StreamOptions) :
    Journaling ProfileError (List Stream) := do
  ignoreAll o.extra.entries
  let frame ← (t.buildInSteps serial (lengthWithoutCheck o.packetLength)).adaptExcept .template
  return .replicate o.streamCount ⟨frame, .continuous⟩

end EndDx4

/-- However building ends, it has made the records that go with that end. -/
theorem Template.run_buildInSteps (t : Template) (serial : Nat) (length : Int64) (before : List Record) :
    (t.buildInSteps serial length).run before = shown before (t.build serial length) := by
  simp only [Template.buildInSteps, Template.build, Template.frame, run_attempt_bind]
  cases t.paddingFor length with
  | error e => simp [bind, shown, Except.bind]
  | ok padding =>
    simp only [bind, Except.bind]
    cases (t.headers padding).mapError BuildError.ofHeader with
    | error e => simp [shown]
    | ok h =>
      dsimp only
      cases (Packet.build h (.ofBytes serial (.replicate padding t.filler))).mapError
          BuildError.inconsistent with
      | error e => simp [shown]
      | ok packet =>
        dsimp only
        cases packet.encode? with
        | none => exact congrArg (EStateM.Result.error _) (List.append_nil before).symm
        | some writer => rfl

namespace EndDx4

theorem run_ignoreAll (entries : List (String × String)) (before : List Record) :
    (ignoreAll entries).run before =
      .ok () (before ++ entries.map fun entry => .optionIgnored name entry.1 entry.2) := by
  induction entries generalizing before with
  | nil => exact congrArg (EStateM.Result.ok ()) (List.append_nil before).symm
  | cons entry entries ih =>
    have first : (note (.optionIgnored name entry.1 entry.2) : Journaling ProfileError Unit).run before =
        .ok () (before ++ [.optionIgnored name entry.1 entry.2]) := rfl
    rw [ignoreAll, EStateM.run_bind, first]
    simp [ih]

theorem records_createStreams (t : Template) (serial : Nat) (length : Int64) (count : Nat) :
    (createStreams t serial length count).records = (t.build serial length).records := by
  rw [createStreams, Traced.records_bind]
  cases (t.build serial length).value <;> exact List.append_nil _

theorem records_streams (t : Template) (serial : Nat) (o : StreamOptions) : (streams t serial o).records =
    ignored o ++ (t.build serial (lengthWithoutCheck o.packetLength)).records := by
  rw [← records_createStreams t serial _ o.streamCount]
  rfl

theorem run_streamsInSteps (t : Template) (serial : Nat) (o : StreamOptions) (before : List Record) :
    (streamsInSteps t serial o).run before = shown before (streams t serial o) := by
  have built := t.run_buildInSteps serial (lengthWithoutCheck o.packetLength) (before ++ ignored o)
  have ignores : (ignoreAll o.extra.entries).run before = .ok () (before ++ ignored o) := run_ignoreAll _ _
  simp only [streamsInSteps, EStateM.run_bind, ignores, run_adaptExcept, built, shown, records_streams]
  cases made : (t.build serial (lengthWithoutCheck o.packetLength)).value with
  | error cause =>
    have value : (streams t serial o).value = .error (.template cause) := createStreams_of_error made _
    simp [value]
  | ok f =>
    have value : (streams t serial o).value = .ok (.replicate o.streamCount ⟨f, .continuous⟩) :=
      createStreams_of_frame made _
    simp [value]

/-- What there is to tell of a template, if it was built. -/
def told (t : Template) : Except Template.BuildError Frame → List Record
  | .ok f => [.templateBuilt f.length f.padding t.segments.length]
  | .error _ => []

theorem records_build (t : Template) (serial : Nat) (length : Int64) :
    (t.build serial length).records = told t (t.build serial length).value := by
  rw [Template.build]
  cases t.frame serial length <;> rfl

/-- The same as it stands in the log. -/
def toldLines (t : Template) : Except Template.BuildError Frame → List String
  | .ok f => [s!"DEBUG built SRv6 template: {f.length} bytes ({f.padding} padding, {t.segments.length} segments)"]
  | .error _ => []

theorem render_told (t : Template) (built : Except Template.BuildError Frame) :
    (told t built).map Record.render = toldLines t built := by
  cases built with
  | ok f => exact congrArg (fun line => [line]) (Record.render_templateBuilt f.length f.padding t.segments.length)
  | error _ => rfl

/-- The records of a call: one for each option that the profile does not know, in the order of the keys, and
one more of the template that was built, if it was. They stand in the log in that order, a line for each. -/
structure Account (t : Template) (o : StreamOptions) (built : Except Template.BuildError Frame)
    (records : List Record) : Prop where
  order : records = Record.atLevel "TRACE" records ++ Record.atLevel "DEBUG" records
  traces : ∃ bindings : List (String × String),
    bindings.Pairwise (fun a b => Text.octets a.1 < Text.octets b.1) ∧
      (∀ key value, (key, value) ∈ bindings ↔ o.extra.get? key = some value) ∧
      Record.atLevel "TRACE" records =
        (bindings.map fun binding => .optionIgnored "srv6_end_dx4" binding.1 binding.2) ∧
      records.map Record.render =
        (bindings.map fun binding => s!"TRACE srv6_end_dx4: ignoring option {binding.1}={binding.2}") ++
          toldLines t built
  debugs : Record.atLevel "DEBUG" records = told t built

theorem render_ignored (o : StreamOptions) : (ignored o).map Record.render =
    o.extra.entries.map fun binding => s!"TRACE srv6_end_dx4: ignoring option {binding.1}={binding.2}" := by
  have front : "TRACE " ++ name ++ ": ignoring option " = "TRACE srv6_end_dx4: ignoring option " := by decide
  rw [ignored, List.map_map]
  refine List.map_congr_left fun binding _ => ?_
  rw [Function.comp_apply, Record.render_optionIgnored]
  simp only [toString]
  rw [front]

theorem atLevel_streams (t : Template) (serial : Nat) (o : StreamOptions) :
    Record.atLevel "TRACE" (streams t serial o).records = ignored o ∧
      Record.atLevel "DEBUG" (streams t serial o).records =
        told t (t.build serial (lengthWithoutCheck o.packetLength)).value := by
  have low : ∀ r ∈ ignored o, r.level = "TRACE" := by
    intro r there
    obtain ⟨entry, _, rfl⟩ := List.mem_map.1 there
    rfl
  have high : ∀ r ∈ told t (t.build serial (lengthWithoutCheck o.packetLength)).value, r.level = "DEBUG" := by
    cases (t.build serial (lengthWithoutCheck o.packetLength)).value <;> simp [told, Record.level]
  rw [records_streams, records_build, Record.atLevel_append, Record.atLevel_append,
    Record.atLevel_of_forall low, Record.atLevel_of_forall high, Record.atLevel_of_forall_ne,
    Record.atLevel_of_forall_ne]
  · simp
  · intro r there
    simp [low r there]
  · intro r there
    simp [high r there]

theorem account (t : Template) (serial : Nat) (o : StreamOptions) :
    Account t o (t.build serial (lengthWithoutCheck o.packetLength)).value (streams t serial o).records := by
  obtain ⟨traces, debugs⟩ := atLevel_streams t serial o
  refine ⟨?_, ⟨o.extra.entries, ?_, fun key value => o.extra.mem_entries_iff, traces, ?_⟩, debugs⟩
  · rw [traces, debugs, records_streams, records_build]
  · exact o.extra.sorted.imp Text.octets_lt_iff.2
  · rw [records_streams, records_build, List.map_append, render_told, render_ignored]

/-- Buffers apart, what is told of a template does not depend on the call. -/
theorem told_alike (t : Template) (serial serial' : Nat) (length : Int64) :
    told t (t.build serial length).value = told t (t.build serial' length).value := by
  rcases Template.build_alike rfl serial serial' length with ⟨_, failed, failed'⟩ | ⟨f, g, made, made'⟩
  · rw [failed, failed']
  · obtain ⟨padded, _, c⟩ := Template.carries_of_build made
    obtain ⟨padded', _, d⟩ := Template.carries_of_build made'
    rw [made, made', told, told, c.length_eq, d.length_eq, padded, padded']

/-- The direction and the options that the profile does not know have no influence on the streams, only on the
records of the lowest level, and those are one for each such option. -/
theorem streams_ignore_options (t : Template) :
    (∀ (serial serial' : Nat) (o o' : StreamOptions), o.packetLength = o'.packetLength →
      o.streamCount = o'.streamCount →
        SameOutcome (streams t serial o).value (streams t serial' o').value ∧
          (streams t serial o).value = (streams t serial o').value ∧
          Record.atLevel "DEBUG" (streams t serial o).records =
            Record.atLevel "DEBUG" (streams t serial' o').records) ∧
      ∀ (serial : Nat) (o : StreamOptions), ∃ length : Int64,
        length.toInt = max (-2 ^ 63) (min (2 ^ 63 - 1) (o.packetLength.toInt - 4)) ∧
          (streams t serial o).value =
            (match (t.build serial length).value with
            | .ok f => .ok (.replicate o.streamCount ⟨f, .continuous⟩)
            | .error cause => .error (.template cause)) ∧
          Account t o (t.build serial length).value (streams t serial o).records ∧
          ∀ before, (streamsInSteps t serial o).run before = shown before (streams t serial o) := by
  constructor
  · intro serial serial' o o' length count
    have same := createStreams_same t serial serial' (lengthWithoutCheck o.packetLength) o.streamCount
    refine ⟨?_, ?_, ?_⟩
    · rwa [value_streams, value_streams, ← length, ← count]
    · rw [value_streams, value_streams, length, count]
    · rw [(atLevel_streams t serial o).2, (atLevel_streams t serial' o').2, length, told_alike t serial serial']
  · intro serial o
    refine ⟨_, toInt_lengthWithoutCheck _, ?_, account t serial o, run_streamsInSteps t serial o⟩
    cases made : (t.build serial (lengthWithoutCheck o.packetLength)).value with
    | error cause => exact createStreams_of_error made _
    | ok f => exact createStreams_of_frame made _

def samplePlain : StreamOptions := { packetLength := 300, streamCount := 2 }

/-- The other direction, and an option that the profile does not know. -/
def sampleOther : StreamOptions :=
  { samplePlain with direction := .serverToClient, extra := Dictionary.empty.insert "vlan" "10" }

/-- The one option is all there is to ignore. -/
theorem eq_vlan {bindings : List (String × String)}
    (sorted : bindings.Pairwise fun a b => Text.octets a.1 < Text.octets b.1)
    (bound : ∀ key value, (key, value) ∈ bindings ↔ sampleOther.extra.get? key = some value) :
    bindings = [("vlan", "10")] := by
  have nodup : bindings.Nodup := by
    refine sorted.imp ?_
    rintro a _ less rfl
    exact List.lt_irrefl _ less
  have single : [("vlan", "10")].Nodup := List.pairwise_singleton _ _
  refine List.perm_singleton.1 ((List.perm_ext_iff_of_nodup nodup single).2 fun (key, value) => ?_)
  rw [bound, List.mem_singleton, Prod.mk.injEq]
  simp [sampleOther, Dictionary.get?_insert, eq_comm]

/-- One segment, and none: the option is recorded even when no template can be built. -/
theorem ignored_sample :
    SameOutcome (streams {} 0 samplePlain).value (streams {} 7 sampleOther).value ∧
      (streams {} 0 sampleOther).records.map Record.render =
        ["TRACE srv6_end_dx4: ignoring option vlan=10",
          "DEBUG built SRv6 template: 296 bytes (190 padding, 1 segments)"] ∧
      Record.atLevel "DEBUG" (streams {} 0 sampleOther).records = [.templateBuilt 296 190 1] ∧
      (streams { segments := [] } 0 sampleOther).records.map Record.render =
        ["TRACE srv6_end_dx4: ignoring option vlan=10"] ∧
      Record.atLevel "DEBUG" (streams { segments := [] } 0 sampleOther).records = [] := by
  obtain ⟨same, each⟩ := streams_ignore_options {}
  obtain ⟨_, each'⟩ := streams_ignore_options { segments := [] }
  obtain ⟨length, clamped, _, account, _⟩ := each 0 sampleOther
  obtain ⟨length', _, _, account', _⟩ := each' 0 sampleOther
  obtain ⟨bindings, sorted, bound, _, lines⟩ := account.traces
  obtain ⟨bindings', sorted', bound', _, lines'⟩ := account'.traces
  have short : length.toInt = 296 := clamped.trans (by decide)
  obtain ⟨f, made⟩ := Template.exists_frame {} 0 length (by simp) (by decide) (by omega)
  obtain ⟨padded, _, carries⟩ := Template.carries_of_build made
  have padding : f.padding = 190 := by rw [padded, Template.missing, short]; rfl
  have size : f.length = 296 := by rw [carries.length_eq, padding]; rfl
  have built : told {} (Template.build {} 0 length).value = [.templateBuilt 296 190 1] := by
    rw [made, told, size, padding]
    rfl
  have failed : (Template.build { segments := [] } 0 length').value = .error .noSegments :=
    Template.build_of_nil rfl
  refine ⟨(same 0 7 _ _ rfl rfl).1, ?_, account.debugs.trans built, ?_, ?_⟩
  · rw [lines, eq_vlan sorted bound, ← render_told, built]
    decide
  · rw [lines', eq_vlan sorted' bound', failed]
    decide
  · rw [account'.debugs, failed]
    rfl

end EndDx4

end Srv6Traffic
