import Srv6Traffic.CommandLine.Run
import Srv6Traffic.Proofs.Stream.Parts

/-! The settings of a command line as text. Each of them says what one more part at the end of the text of options
would say, where a number is written in decimal. -/
namespace Srv6Traffic
open Text

namespace StreamOptions
variable {key value : String}

/-- A text that comes out of a text of options as it went in: without commas, and without blanks at its ends. -/
structure Plain (value : String) : Prop where
  free : ',' ∉ value.toList
  head : ∀ c ∈ value.toList.head?, isBlank c = false
  last : ∀ c ∈ value.toList.getLast?, isBlank c = false

theorem Plain.trims (plain : Plain value) : Trims value.toList value.toList := trims_self plain.head plain.last

theorem plain_of_solid (solid : ∀ c ∈ value.toList, isBlank c = false ∧ c ≠ ',') : Plain value where
  free := fun there => (solid _ there).2 rfl
  head := fun c first => (solid c (List.mem_of_mem_head? first)).1
  last := fun c last => (solid c (List.mem_of_mem_getLast? last)).1

theorem plain_of_all (all : (value.toList.all fun c => decide (isBlank c = false ∧ c ≠ ',')) = true) : Plain value :=
  plain_of_solid fun c there => of_decide_eq_true (List.all_eq_true.1 all c there)

/-- What follows the comma after a text is read after it, and only if it could be read. -/
theorem parse_append (text : String) (rest : List Char) :
    parse (text ++ .ofList (',' :: rest)) = parse text >>= fun o => (Text.pieces ',' rest).foldlM readPart o := by
  rw [parse_eq, parse_eq, String.toList_append, String.toList_ofList, pieces_append, List.foldlM_append]

/-- One more part of a text, if there is a value for it. -/
def setting (key : String) : Option String → String
  | some value => "," ++ key ++ "=" ++ value
  | none => ""

theorem parse_setting (text : String) {given : Option String} (plainKey : Plain key) (first : '=' ∉ key.toList)
    (plain : ∀ value ∈ given, Plain value) :
    parse (text ++ setting key given) = parse text >>= fun o => match given with
      | some value => o.set key value
      | none => .ok o := by
  cases given with
  | none =>
    rw [setting, String.append_empty]
    cases parse text <;> rfl
  | some value =>
    have shape : setting key (some value) = .ofList (',' :: (key.toList ++ '=' :: value.toList)) := by
      rw [← String.toList_inj, setting]
      simp
    have free : ',' ∉ key.toList ++ '=' :: value.toList := by
      simp [plainKey.free, (plain value rfl).free]
    have binds := binds_of_trims first plainKey.trims (plain value rfl).trims
    rw [String.ofList_toList, String.ofList_toList] at binds
    rw [shape, parse_append, pieces_of_notMem free]
    refine congrArg (parse text >>= ·) (funext fun o => ?_)
    change _ = o.set key value
    rw [List.foldlM_cons, readPart_of_binds binds]
    cases o.set key value <;> rfl

theorem parse_packetLength (text : String) (length : Option Int64) :
    parse (text ++ setting "packet_len" (length.map fun n => toString n.toInt)) =
      parse text >>= fun o => .ok { o with packetLength := length.getD o.packetLength } := by
  have plain : ∀ value ∈ length.map fun n => toString n.toInt, Plain value := by
    intro value there
    obtain ⟨n, _, rfl⟩ := Option.mem_map.1 there
    exact plain_of_solid (denotes_toString n.toInt).solid
  rw [parse_setting text (plain_of_all (by decide)) (by decide) plain]
  cases length with
  | none => rfl
  | some n => exact congrArg (parse text >>= ·) (funext fun o => set_packetLength o (denotes_toString n.toInt))

theorem parse_streamCount (text : String) {count : Option Nat} (small : ∀ n ∈ count, n ≤ 2 ^ 63 - 1) :
    parse (text ++ setting "stream_count" (count.map fun n => toString n)) =
      parse text >>= fun o => .ok { o with streamCount := count.getD o.streamCount } := by
  have plain : ∀ value ∈ count.map fun n => toString n, Plain value := by
    intro value there
    obtain ⟨n, _, rfl⟩ := Option.mem_map.1 there
    exact plain_of_solid (denotes_toString_nat n).solid
  rw [parse_setting text (plain_of_all (by decide)) (by decide) plain]
  cases count with
  | none => rfl
  | some n =>
    -- the text goes through a number with a sign, where a greater one would be refused
    have fits : (Int64.ofNat n).toInt = n := Int64.toInt_ofNat_of_lt (Nat.lt_succ_of_le (small n rfl))
    have denotes : Denotes (toString n).toList (Int64.ofNat n).toInt := by
      rw [fits]
      exact denotes_toString_nat n
    refine congrArg (parse text >>= ·) (funext fun o => ?_)
    change o.set "stream_count" (toString n) = _
    rw [set_streamCount o denotes, fits]
    rfl

theorem parse_direction (text : String) {direction : Option String} (plain : ∀ value ∈ direction, Plain value) :
    parse (text ++ setting "direction" direction) =
      parse text >>= fun o => match direction with
        | some value => o.set "direction" value
        | none => .ok o :=
  parse_setting text (plain_of_all (by decide)) (by decide) plain

end StreamOptions
open StreamOptions

namespace CommandLine.Invocation
variable {i : Invocation}

/-- A text of options with the settings of a command line behind it. -/
def appendedTo (i : Invocation) (text : String) : String :=
  text ++ setting "packet_len" (i.packetLength.map fun n => toString n.toInt) ++
    setting "stream_count" (i.streamCount.map fun n => toString n) ++ setting "direction" i.direction

theorem options_of_malformed {e : ParseError} (malformed : StreamOptions.parse (i.tunables.getD "") = .error e) :
    i.options = .error e := by
  rw [options, malformed]
  rfl

/-- The settings do what their text would do. In particular they do not hide that the text before them is
malformed, whatever they are. -/
theorem options_eq_parse_appended (small : ∀ n ∈ i.streamCount, n ≤ 2 ^ 63 - 1)
    (plain : ∀ value ∈ i.direction, Plain value) :
    i.options = StreamOptions.parse (i.appendedTo (i.tunables.getD "")) ∧
      ∀ e, StreamOptions.parse (i.tunables.getD "") = .error e →
        ∀ i' : Invocation, i'.tunables = i.tunables → i'.options = .error e := by
  constructor
  · rw [appendedTo, parse_direction _ plain, parse_streamCount _ small, parse_packetLength, options]
    cases StreamOptions.parse (i.tunables.getD "") <;> rfl
  · intro e malformed i' same
    rw [← same] at malformed
    exact options_of_malformed malformed

/-- All three settings, behind a text that ends with a comma. -/
def sampleAppended : Invocation where
  tunables := some "vlan=10,"
  packetLength := some (-5)
  streamCount := some 4
  direction := some "up=1"

theorem appended_sample :
    sampleAppended.options = StreamOptions.parse "vlan=10,,packet_len=-5,stream_count=4,direction=up=1" ∧
      { sampleAppended with tunables := some "mtu" }.options = .error (.malformed "mtu") := by
  have small : ∀ n ∈ sampleAppended.streamCount, n ≤ 2 ^ 63 - 1 := by
    rintro n ⟨⟩
    decide
  have plain : ∀ value ∈ sampleAppended.direction, Plain value := by
    rintro value ⟨⟩
    exact plain_of_all (by decide)
  have text : sampleAppended.appendedTo "vlan=10," =
      "vlan=10,,packet_len=-5,stream_count=4,direction=up=1" := by decide
  constructor
  · rw [← text]
    exact (options_eq_parse_appended small plain).1
  · have none : ∀ n ∈ ({ tunables := some "mtu" } : Invocation).streamCount, n ≤ 2 ^ 63 - 1 := by
      rintro n ⟨⟩
    have none' : ∀ value ∈ ({ tunables := some "mtu" } : Invocation).direction, Plain value := by
      rintro value ⟨⟩
    exact (options_eq_parse_appended none none').2 _ (by decide) _ rfl

end CommandLine.Invocation
end Srv6Traffic
