import Srv6Traffic.Proofs.Stream.Options

/-! Options that are set in place. A call goes step by step: a number is read first and written then, and a call
that fails leaves the options as its last step left them. Those are the options from before it. Whatever calls have
been made, failing ones among them, nothing is kept as unknown that would set an option. -/
namespace Srv6Traffic.StreamOptions
open Text

/-- Steps that change the options, until one of them fails. -/
abbrev Setting := EStateM ParseError StreamOptions

namespace Setting

def number (key value : String) : Setting Int64 :=
  match int64? value.toList with
  | some n => pure n
  | none => throw (.badValue key value)

def keep (key value : String) : Setting Unit := modify fun o => { o with extra := o.extra.insert key value }

def call (key value : String) : Setting Unit :=
  if key = "direction" then
    match Direction.ofText? value with
    | some direction => modify ({ · with direction })
    | none => keep key value
  else if key = "packet_len" then do
    let n ← number key value
    modify ({ · with packetLength := n })
  else if key = "stream_count" then do
    let n ← number key value
    modify ({ · with streamCount := (Signed.unsigned? n).getD 0 })
  else keep key value

end Setting
open Setting

variable {o o' : StreamOptions} {key value : String} {call : Binding}

/-- What a call makes of the options, as the outcome of its steps. -/
def shown (o : StreamOptions) : Except ParseError StreamOptions → EStateM.Result ParseError StreamOptions Unit
  | .ok o' => .ok () o'
  | .error e => .error e o

theorem run_call (o : StreamOptions) (key value : String) :
    (Setting.call key value).run o = shown o (o.set key value) := by
  rw [Setting.call, set]
  by_cases direction : key = "direction"
  · rw [if_pos direction, if_pos direction]
    cases Direction.ofText? value <;> rfl
  · rw [if_neg direction, if_neg direction]
    by_cases length : key = "packet_len"
    · rw [if_pos length, if_pos length, integer, number]
      cases int64? value.toList <;> rfl
    · rw [if_neg length, if_neg length]
      by_cases count : key = "stream_count"
      · rw [if_pos count, if_pos count, integer, number]
        cases int64? value.toList <;> rfl
      · rw [if_neg count, if_neg count]
        rfl

/-- What a call that succeeds has changed: one option, or one entry of the unknown keys. -/
inductive Sets : Binding → StreamOptions → StreamOptions → Prop
  | packetLength {o : StreamOptions} {value : String} {n : Int64} (denotes : Denotes value.toList n.toInt) :
      Sets ("packet_len", value) o { o with packetLength := n }
  | streamCount {o : StreamOptions} {value : String} {n : Int64} {count : Nat}
      (denotes : Denotes value.toList n.toInt) (clamped : (count : Int) = max 0 n.toInt) :
      Sets ("stream_count", value) o { o with streamCount := count }
  | direction {o : StreamOptions} {value : String} {direction : Direction}
      (known : (value = "0" ∧ direction = .clientToServer) ∨ (value = "1" ∧ direction = .serverToClient)) :
      Sets ("direction", value) o { o with direction }
  | extra {o : StreamOptions} {key value : String} {extra : Dictionary String}
      (unknown : isExtra (key, value) = true)
      (bound : ∀ other, extra.get? other = if other = key then some value else o.extra.get? other) :
      Sets (key, value) o { o with extra }

theorem exists_sets (o : StreamOptions) (good : Numeric key → IsNumber value) :
    ∃ o', o.set key value = .ok o' ∧ Sets (key, value) o o' := by
  by_cases numeric : Numeric key
  · obtain ⟨n, denotes⟩ := good numeric
    obtain rfl | rfl := numeric
    · exact ⟨_, set_packetLength o denotes, .packetLength denotes⟩
    · exact ⟨_, set_streamCount o denotes, .streamCount denotes (by rw [Int.ofNat_toNat, max_comm])⟩
  · by_cases extra : isExtra (key, value) = true
    · exact ⟨_, set_extra o extra, .extra extra fun other => o.extra.get?_insert key other value⟩
    · have sets : isDirection (key, value) = true := by
        refine Decidable.of_not_not fun other => extra ?_
        exact decide_eq_true ⟨numeric, other⟩
      obtain ⟨same, known⟩ := of_decide_eq_true sets
      obtain rfl : key = "direction" := same
      obtain rfl | rfl : value = "0" ∨ value = "1" := known
      · exact ⟨_, set_direction o rfl, .direction (.inl ⟨rfl, rfl⟩)⟩
      · exact ⟨_, set_direction o rfl, .direction (.inr ⟨rfl, rfl⟩)⟩

/-- Nothing is kept as unknown that would set an option, and the number of streams is one that can be read. -/
structure Coherent (o : StreamOptions) : Prop where
  packetLength : o.extra.get? "packet_len" = none
  streamCount : o.extra.get? "stream_count" = none
  direction : ∀ value, o.extra.get? "direction" = some value → value ≠ "0" ∧ value ≠ "1"
  count : o.streamCount ≤ 2 ^ 63 - 1

theorem coherent_default : Coherent {} where
  packetLength := rfl
  streamCount := rfl
  direction := fun _ none => by contradiction
  count := by decide

theorem Coherent.sets (coherent : Coherent o) (sets : Sets call o o') : Coherent o' := by
  cases sets with
  | packetLength _ => exact ⟨coherent.packetLength, coherent.streamCount, coherent.direction, coherent.count⟩
  | direction _ => exact ⟨coherent.packetLength, coherent.streamCount, coherent.direction, coherent.count⟩
  | @streamCount _ _ n count _ clamped =>
    refine ⟨coherent.packetLength, coherent.streamCount, coherent.direction, ?_⟩
    have high := n.toInt_lt
    change count ≤ 2 ^ 63 - 1
    omega
  | @extra _ key value extra unknown bound =>
    obtain ⟨notNumeric, notDirection⟩ := of_decide_eq_true unknown
    refine ⟨?_, ?_, fun shown there => ?_, coherent.count⟩
    · rw [bound, if_neg (fun same => notNumeric (.inl same.symm))]
      exact coherent.packetLength
    · rw [bound, if_neg (fun same => notNumeric (.inr same.symm))]
      exact coherent.streamCount
    · rw [bound] at there
      by_cases same : "direction" = key
      · rw [if_pos same] at there
        obtain rfl := Option.some.inj there
        have none : ¬(value = "0" ∨ value = "1") := fun known => notDirection (decide_eq_true ⟨same.symm, known⟩)
        exact not_or.1 none
      · rw [if_neg same] at there
        exact coherent.direction shown there

theorem set_fails_or_sets (o : StreamOptions) (key value : String) :
    (Numeric key ∧ ¬IsNumber value ∧ o.set key value = .error (.badValue key value)) ∨
      (¬(Numeric key ∧ ¬IsNumber value) ∧ ∃ o', o.set key value = .ok o' ∧ Sets (key, value) o o') := by
  by_cases bad : Numeric key ∧ ¬IsNumber value
  · exact .inl ⟨bad.1, bad.2, set_of_not_isNumber o bad.1 bad.2⟩
  · exact .inr ⟨bad, exists_sets o fun numeric => Classical.not_not.1 fun noNumber => bad ⟨numeric, noNumber⟩⟩

theorem sets_of_set (done : o.set key value = .ok o') : Sets (key, value) o o' := by
  obtain ⟨_, _, failed⟩ | ⟨_, p, set, sets⟩ := set_fails_or_sets o key value
  · rw [failed] at done
    contradiction
  · rw [set] at done
    cases done
    exact sets

theorem Coherent.setEntry {entry : List Char} (coherent : Coherent o) (done : o.setEntry entry = .ok o') :
    Coherent o' := by
  by_cases there : '=' ∈ entry
  · obtain ⟨b, binds⟩ := exists_binds there
    rw [setEntry_of_binds o binds] at done
    exact coherent.sets (sets_of_set done)
  · rw [setEntry_of_notMem o there] at done
    contradiction

theorem Coherent.setEntries {found : List (List Char)} (coherent : Coherent o)
    (done : found.foldlM StreamOptions.setEntry o = .ok o') : Coherent o' := by
  -- the options are general, since each entry hands other ones on to the rest
  induction found generalizing o with
  | nil =>
    cases done
    exact coherent
  | cons entry rest ih =>
    rw [List.foldlM_cons] at done
    cases first : o.setEntry entry with
    | error e =>
      rw [first] at done
      contradiction
    | ok p =>
      rw [first] at done
      exact ih (coherent.setEntry first) done

/-- The options after a call, whether it succeeds or not. -/
def after (o : StreamOptions) (key value : String) : StreamOptions :=
  match (Setting.call key value).run o with
  | .ok _ o' => o'
  | .error _ o' => o'

/-- The default options, those read from a text, and what any calls make of them. -/
inductive Reached : StreamOptions → Prop
  | default : Reached {}
  | parsed {o : StreamOptions} (text : String) (read : parse text = .ok o) : Reached o
  | called {o : StreamOptions} (key value : String) (before : Reached o) : Reached (o.after key value)

theorem Coherent.after (coherent : Coherent o) (key value : String) : Coherent (o.after key value) := by
  rw [StreamOptions.after, run_call]
  cases done : o.set key value with
  | ok o' => exact coherent.sets (sets_of_set done)
  | error e => exact coherent

theorem Reached.coherent (reached : Reached o) : Coherent o := by
  induction reached with
  | default => exact coherent_default
  | parsed text read => exact coherent_default.setEntries read
  | called key value _ ih => exact ih.after key value

/-- Options that can be reached are coherent. A call on them fails just if it sets a number to what is none, and
then it has changed nothing; else it has changed what its key selects and nothing else. -/
theorem reached_coherent_calls_atomic (reached : Reached o) :
    Coherent o ∧ ∀ key value, (Setting.call key value).run o = shown o (o.set key value) ∧
      ((∃ e o', (Setting.call key value).run o = .error e o') ↔ Numeric key ∧ ¬IsNumber value) ∧
      (∀ e o', (Setting.call key value).run o = .error e o' → e = .badValue key value ∧ o' = o) ∧
      ∀ o', (Setting.call key value).run o = .ok () o' → Sets (key, value) o o' := by
  refine ⟨reached.coherent, fun key value => ⟨run_call o key value, ?_⟩⟩
  rw [run_call]
  obtain ⟨numeric, noNumber, failed⟩ | ⟨good, p, done, sets⟩ := set_fails_or_sets o key value
  · rw [failed]
    refine ⟨⟨fun _ => ⟨numeric, noNumber⟩, fun _ => ⟨_, _, rfl⟩⟩, ?_, ?_⟩
    · rintro e o' ⟨⟩
      exact ⟨rfl, rfl⟩
    · rintro o' ⟨⟩
  · rw [done]
    refine ⟨⟨?_, fun bad => absurd bad good⟩, ?_, ?_⟩
    · rintro ⟨e, o', ⟨⟩⟩
    · rintro e o' ⟨⟩
    · rintro o' ⟨⟩
      exact sets

/-- A direction that is none, then a length that is none, then a number of streams below zero. -/
def sampleReached : StreamOptions :=
  ((({} : StreamOptions).after "direction" "up").after "packet_len" "0x40").after "stream_count" "-1"

theorem reached_sample : sampleReached.extra.get? "direction" = some "up" ∧ sampleReached.streamCount = 0 ∧
    Coherent sampleReached ∧
    (Setting.call "stream_count" "9223372036854775808").run sampleReached =
      .error (.badValue "stream_count" "9223372036854775808") sampleReached := by
  have reached : Reached sampleReached :=
    .called "stream_count" "-1" (.called "packet_len" "0x40" (.called "direction" "up" .default))
  obtain ⟨coherent, calls⟩ := reached_coherent_calls_atomic reached
  obtain ⟨same, _⟩ := calls "stream_count" "9223372036854775808"
  refine ⟨by decide, by decide, coherent, same.trans ?_⟩
  have fails : sampleReached.set "stream_count" "9223372036854775808" =
      .error (.badValue "stream_count" "9223372036854775808") := by decide
  rw [fails]
  rfl

end Srv6Traffic.StreamOptions
