import Srv6Traffic.CommandLine.Run
import Srv6Traffic.Proofs.Stream.Options

/-! The settings of a command line that name an option, beside the text of options. A setting stands above what
the text says. A direction that is none is no setting of the direction: it is kept, and the text has its way. -/
namespace Srv6Traffic.CommandLine.Invocation
variable {i i' : Invocation} {o o' p : StreamOptions}

/-- What the settings make of options that were read before them. -/
structure Overlays (i : Invocation) (o p : StreamOptions) : Prop where
  packetLength : p.packetLength = i.packetLength.getD o.packetLength
  streamCount : p.streamCount = i.streamCount.getD o.streamCount
  direction : p.direction = (i.direction.bind Direction.ofText?).getD o.direction
  extra : ∀ key, p.extra.get? key =
    if key = "direction" ∧ i.direction.bind Direction.ofText? = none then i.direction.or (o.extra.get? key)
    else o.extra.get? key

/-- The settings never fail. -/
theorem exists_overlay (parses : StreamOptions.parse (i.tunables.getD "") = .ok o) :
    ∃ p, i.options = .ok p ∧ Overlays i o p := by
  rw [options, parses]
  cases given : i.direction with
  | none =>
    refine ⟨_, rfl, rfl, rfl, ?_, fun key => ?_⟩
    · rw [given]
      rfl
    · rw [given]
      split <;> rfl
  | some value =>
    cases known : Direction.ofText? value with
    | some direction =>
      have set : i.direction.bind Direction.ofText? = some direction := by
        rw [given]
        exact known
      refine ⟨_, StreamOptions.set_direction _ known, rfl, rfl, ?_, fun key => ?_⟩
      · rw [set]
        rfl
      · rw [set, if_neg (fun unset => Option.some_ne_none _ unset.2)]
    | none =>
      have unset : i.direction.bind Direction.ofText? = none := by
        rw [given]
        exact known
      refine ⟨_, StreamOptions.set_unknownDirection _ known, rfl, rfl, ?_, fun key => ?_⟩
      · rw [unset]
        rfl
      · rw [unset, given]
        change (o.extra.insert "direction" value).get? key = _
        rw [Dictionary.get?_insert]
        split
        next same => rw [if_pos ⟨same, rfl⟩, Option.some_or]
        next other => rw [if_neg (fun both => other both.1)]

theorem Overlays.direction_of_known {value : String} {direction : Direction} (overlays : Overlays i o p)
    (given : i.direction = some value) (known : Direction.ofText? value = some direction) :
    p.direction = direction := by
  rw [overlays.direction, given, Option.bind_some, known]
  rfl

theorem Overlays.direction_of_unknown {value : String} (overlays : Overlays i o p)
    (given : i.direction = some value) (unknown : Direction.ofText? value = none) :
    p.direction = o.direction ∧ p.extra.get? "direction" = some value := by
  have unset : i.direction.bind Direction.ofText? = none := by rw [given, Option.bind_some, unknown]
  constructor
  · rw [overlays.direction, unset]
    rfl
  · rw [overlays.extra, if_pos ⟨rfl, unset⟩, given]
    rfl

/-- On two command lines that differ in the text of options, an option with a setting of its own comes out the
same, except for a direction that is none. -/
theorem settings_override (others : i' = { i with tunables := i'.tunables })
    (parses : StreamOptions.parse (i.tunables.getD "") = .ok o)
    (parses' : StreamOptions.parse (i'.tunables.getD "") = .ok o') :
    ∃ p p', i.options = .ok p ∧ i'.options = .ok p' ∧
      (∀ length, i.packetLength = some length → p.packetLength = length ∧ p'.packetLength = length) ∧
      (∀ count, i.streamCount = some count → p.streamCount = count ∧ p'.streamCount = count) ∧
      (i.direction = some "0" → p.direction = .clientToServer ∧ p'.direction = .clientToServer) ∧
      (i.direction = some "1" → p.direction = .serverToClient ∧ p'.direction = .serverToClient) ∧
      (∀ value, i.direction = some value → value ≠ "0" → value ≠ "1" →
        (p.direction = o.direction ∧ p.extra.get? "direction" = some value) ∧
          (p'.direction = o'.direction ∧ p'.extra.get? "direction" = some value)) := by
  obtain ⟨p, run, overlays⟩ := exists_overlay parses
  obtain ⟨p', run', overlays'⟩ := exists_overlay parses'
  have length : i'.packetLength = i.packetLength := by rw [others]
  have count : i'.streamCount = i.streamCount := by rw [others]
  have direction : i'.direction = i.direction := by rw [others]
  refine ⟨p, p', run, run', ?_, ?_, ?_, ?_, ?_⟩
  · intro n given
    rw [overlays.packetLength, overlays'.packetLength, length, given]
    exact ⟨rfl, rfl⟩
  · intro n given
    rw [overlays.streamCount, overlays'.streamCount, count, given]
    exact ⟨rfl, rfl⟩
  · intro given
    exact ⟨overlays.direction_of_known given rfl, overlays'.direction_of_known (direction.trans given) rfl⟩
  · intro given
    exact ⟨overlays.direction_of_known given rfl, overlays'.direction_of_known (direction.trans given) rfl⟩
  · intro value given notZero notOne
    have unknown : Direction.ofText? value = none := by rw [Direction.ofText?, if_neg notZero, if_neg notOne]
    exact ⟨overlays.direction_of_unknown given unknown,
      overlays'.direction_of_unknown (direction.trans given) unknown⟩

/-- A command line with the three settings beside a text of options. -/
def threeSettings (tunables direction : String) : Invocation where
  tunables := some tunables
  packetLength := some 100
  streamCount := some 2
  direction := some direction

theorem settings_override_sample :
    StreamOptions.parse "direction=0,packet_len=-9,direction=up" =
      .ok { packetLength := -9, extra := Dictionary.empty.insert "direction" "up" } ∧
    StreamOptions.parse "stream_count=7" = .ok { streamCount := 7 } ∧
    ∃ p p', (threeSettings "direction=0,packet_len=-9,direction=up" "1").options = .ok p ∧
      (threeSettings "stream_count=7" "1").options = .ok p' ∧
      (p.packetLength = 100 ∧ p'.packetLength = 100) ∧ (p.streamCount = 2 ∧ p'.streamCount = 2) ∧
      (p.direction = .serverToClient ∧ p'.direction = .serverToClient) := by
  have parses : StreamOptions.parse "direction=0,packet_len=-9,direction=up" =
      .ok { packetLength := -9, extra := Dictionary.empty.insert "direction" "up" } := by decide
  have parses' : StreamOptions.parse "stream_count=7" = .ok { streamCount := 7 } := by decide
  have others : threeSettings "stream_count=7" "1" =
      { threeSettings "direction=0,packet_len=-9,direction=up" "1" with
        tunables := (threeSettings "stream_count=7" "1").tunables } := rfl
  obtain ⟨p, p', run, run', length, count, -, one, -⟩ := settings_override others parses parses'
  exact ⟨parses, parses', p, p', run, run', length 100 rfl, count 2 rfl, one rfl⟩

/-- A direction that is none does not stand above the text of options. -/
theorem unknown_direction_not_override :
    parse ["-t", "direction=1", "-l", "100", "-n", "2", "-d", "2"] = .ok (threeSettings "direction=1" "2") ∧
    parse ["-t", "", "-l", "100", "-n", "2", "-d", "2"] = .ok (threeSettings "" "2") ∧
    StreamOptions.parse "direction=1" = .ok { direction := .serverToClient } ∧
    StreamOptions.parse "" = .ok {} ∧
    (threeSettings "direction=1" "2").options.map (·.direction) = .ok .serverToClient ∧
    (threeSettings "" "2").options.map (·.direction) = .ok .clientToServer := by
  decide

end Srv6Traffic.CommandLine.Invocation
