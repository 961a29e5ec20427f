import Srv6Traffic.Proofs.CommandLine.HexDump
import Srv6Traffic.Proofs.CommandLine.LayerSummary
import Srv6Traffic.Proofs.CommandLine.Settings
import Srv6Traffic.Proofs.Stream.EndDx4

/-! What a run comes to, from the command line to the exit code. The options are read first, then the profile
is looked for, then the frame is built: the first of these that fails is the error, and a run that fails has
printed nothing. All that a run prints and writes is of one frame: a line for each stream, the layers and the
octets if asked for, and the file. -/
namespace Srv6Traffic

/-- The length of the frame that is asked for: that of the packet without its frame check sequence, which
stays within 64 bits. -/
def StreamOptions.frameLength (o : StreamOptions) : Int :=
  max (-2 ^ 63) (min (2 ^ 63 - 1) (o.packetLength.toInt - 4))

namespace CommandLine
open EndDx4

theorem toInt_frameLength (o : StreamOptions) :
    (lengthWithoutCheck o.packetLength).toInt = o.frameLength :=
  toInt_lengthWithoutCheck _

/-- The text of an error that ends with a quotation. -/
theorem errorText_quoted {front whole : String} (error : "Error: " ++ front = whole) (quoted : String) :
    errorText (front ++ quoted ++ "`") = whole ++ quoted ++ "`\n" := by
  have back : "`" ++ "\n" = "`\n" := by decide
  change "Error: " ++ (front ++ quoted ++ "`") ++ "\n" = _
  simp only [← error, String.append_assoc, back]

/-- The text of the error for options that cannot be read. -/
def optionsErrorText : StreamOptions.ParseError → String
  | .malformed entry => s!"Error: expected `key=value`, got `{entry}`\n"
  | .badValue key value => s!"Error: invalid value `{value}` for `{key}`\n"

theorem errorText_options (cause : StreamOptions.ParseError) :
    errorText (RunError.options cause).message = optionsErrorText cause := by
  cases cause with
  | malformed entry =>
    have front : "Error: " ++ "expected `key=value`, got `" = "Error: expected `key=value`, got `" := by decide
    exact errorText_quoted front entry
  | badValue key value =>
    have front : "Error: " ++ "invalid value `" = "Error: invalid value `" := by decide
    refine errorText_quoted ?_ key
    simp only [← front, toString, String.append_assoc]

theorem Plan.conclude_of_no_failure {plan : Plan} (fine : plan.failure = none) :
    plan.conclude none = ⟨0, plan.stdout, ""⟩ := by
  unfold conclude
  rw [fine]
  cases plan.file <;> rfl

namespace Invocation
variable {i : Invocation} {told o : StreamOptions} {f : Frame} {p : Packet} {e : RunError}

/-- The template of the frames: the standard one, but for link-layer addresses that are given. -/
def template (i : Invocation) : Template where
  destinationMac := i.destinationMac.getD .broadcast
  sourceMac := i.sourceMac.getD .zero

theorem length_segments (i : Invocation) : i.template.segments.length = 1 := rfl

theorem few_segments (i : Invocation) : i.template.segments.length ≤ 127 :=
  i.length_segments.trans_le (by decide)

def profileName (i : Invocation) : String := i.profile.getD EndDx4.name

/-- The error for a profile that is not the one there is. Addresses make a difference to it. -/
def profileError (i : Invocation) : RunError :=
  if i.destinationMac = none ∧ i.sourceMac = none then .profile (.unknown i.profileName)
  else .addressesNeedEndDx4

/-- The text of that error. -/
def profileErrorText (i : Invocation) : String :=
  if i.destinationMac = none ∧ i.sourceMac = none then s!"Error: unknown profile `{i.profileName}`\n"
  else "Error: --dst-mac and --src-mac only apply to srv6_end_dx4\n"

theorem errorText_profileError (i : Invocation) : errorText i.profileError.message = i.profileErrorText := by
  rw [profileError, profileErrorText]
  split
  · have front : "Error: " ++ "unknown profile `" = "Error: unknown profile `" := by decide
    exact errorText_quoted front i.profileName
  · decide

/-- The lines that show a frame and what it decodes to: a line for each layer, and the octets, each if asked for. -/
inductive Shows (i : Invocation) (f : Frame) (p : Packet) : List String → Prop
  | intro {layers dump : List String} {parts : List Bytes} (described : LayerSummary.Describes p layers)
    (dumped : HexDump.Dump dump parts f.data) :
    Shows i f p ((if i.decode then layers else []) ++ if i.hex then dump else [])

/-- The lines that are worked out to show a frame. -/
def shown (i : Invocation) (f : Frame) (p : Packet) : List String :=
  (if i.decode then LayerSummary.lines p else []) ++ if i.hex then HexDump.lines f.data else []

/-- The lines for so many streams of one frame. -/
def summary (f : Frame) (count : Nat) : List String :=
  (List.range count).map fun k => s!"stream {k}: Continuous, {f.length} bytes ({f.padding} padding)"

theorem shows_iff {lines : List String} : i.Shows f p lines ↔ i.shown f p = lines := by
  constructor
  · rintro ⟨described, dumped⟩
    rw [shown, LayerSummary.describes_iff.1 described, dumped.unique]
  · rintro rfl
    exact .intro (LayerSummary.describes_iff.2 rfl) (HexDump.dump_lines f.data)

section
variable {cause : StreamOptions.ParseError}

theorem options_of_error (failed : StreamOptions.parse (i.tunables.getD "") = .error cause) :
    i.options = .error cause := by
  rw [options, failed]
  rfl

theorem parse_of_options (read : i.options = .ok o) :
    ∃ told, StreamOptions.parse (i.tunables.getD "") = .ok told := by
  cases parses : StreamOptions.parse (i.tunables.getD "") with
  | error cause => cases (options_of_error parses).symm.trans read
  | ok told => exact ⟨told, rfl⟩

theorem create_builtin (name : String) : Registry.builtin.create name =
    if name = EndDx4.name then .ok (EndDx4.profile {}) else .error (.unknown name) := by
  have bound : Registry.builtin.constructors.get? name =
      if name = EndDx4.name then some EndDx4.make else none := Dictionary.get?_insert .empty _ _ _
  unfold Registry.create
  rw [bound]
  by_cases same : name = EndDx4.name
  · rw [if_pos same, if_pos same]
    rfl
  · rw [if_neg same, if_neg same]

theorem isNone_and_isNone_iff : (i.destinationMac.isNone && i.sourceMac.isNone) = true ↔
    i.destinationMac = none ∧ i.sourceMac = none := by
  rw [Bool.and_eq_true, Option.isNone_iff_eq_none, Option.isNone_iff_eq_none]

theorem template_of_none (absent : i.destinationMac = none ∧ i.sourceMac = none) : i.template = {} := by
  rw [template, absent.1, absent.2]
  rfl

/-- The profile of the registry and the one for given addresses are both that of the template. -/
theorem selectedProfile_of_name (named : i.profileName = EndDx4.name) :
    i.selectedProfile = .ok (EndDx4.profile i.template) := by
  simp only [selectedProfile]
  rw [← profileName]
  split
  next absent =>
    rw [template_of_none (isNone_and_isNone_iff.1 absent), create_builtin, if_pos named]
    rfl
  next =>
    rw [if_neg (not_not.2 named)]
    rfl

theorem selectedProfile_of_other (other : i.profileName ≠ EndDx4.name) :
    i.selectedProfile = .error i.profileError := by
  simp only [selectedProfile]
  rw [← profileName, profileError]
  split
  next absent =>
    rw [if_pos (isNone_and_isNone_iff.1 absent), create_builtin, if_neg other]
    rfl
  next given => rw [if_neg (mt isNone_and_isNone_iff.2 given)]

theorem streams_of_error (failed : StreamOptions.parse (i.tunables.getD "") = .error cause) :
    i.streams = .error (.options cause) := by
  rw [streams, options_of_error failed]
  rfl

theorem streams_of_other (read : i.options = .ok o) (other : i.profileName ≠ EndDx4.name) :
    i.streams = .error i.profileError := by
  rw [streams, read, selectedProfile_of_other other]
  rfl

theorem streams_of_name (read : i.options = .ok o) (named : i.profileName = EndDx4.name) : i.streams =
    (createStreams i.template 0 (lengthWithoutCheck o.packetLength) o.streamCount).value.mapError .profile := by
  rw [streams, read, selectedProfile_of_name named]
  rfl

theorem streams_of_long (read : i.options = .ok o) (named : i.profileName = EndDx4.name)
    (long : 65589 < o.frameLength) : i.streams = .error (.profile (.template .packetTooLarge)) := by
  rw [← toInt_frameLength] at long
  rw [streams_of_name read named,
    createStreams_of_error (Template.build_of_long (List.cons_ne_nil _ _) i.few_segments long)]
  rfl

theorem exists_frame (o : StreamOptions) (short : o.frameLength ≤ 65589) : ∃ (f : Frame) (p : Packet),
    (i.template.build 0 (lengthWithoutCheck o.packetLength)).value = .ok f ∧ f.decode = .ok p := by
  rw [← toInt_frameLength] at short
  obtain ⟨f, built⟩ := i.template.exists_frame 0 _ (List.cons_ne_nil _ _) i.few_segments short
  obtain ⟨_, _, carries⟩ := Template.carries_of_build built
  obtain ⟨p, decoded, _⟩ := carries.decodes
  exact ⟨f, p, built, decoded⟩

theorem lengths_of_build (built : (i.template.build 0 (lengthWithoutCheck o.packetLength)).value = .ok f) :
    (f.length : Int) = max o.frameLength 106 ∧ f.padding = f.length - 106 ∧ f.data.length = f.length := by
  obtain ⟨padded, p, carries⟩ := Template.carries_of_build built
  have unpadded : i.template.unpaddedLength = 106 := by rw [Template.unpaddedLength_eq, length_segments]
  have length := carries.length_eq
  rw [Template.missing, unpadded, toInt_frameLength] at padded
  rw [unpadded] at length
  exact ⟨by omega, by omega, Slice.length_data _⟩

end

theorem plan_of_error (plain : i.list = false) (failed : i.streams = .error e) :
    i.plan = { failure := some e } := by
  rw [plan, plain, failed]
  rfl

theorem conclude_of_error (plain : i.list = false) (failed : i.streams = .error e) :
    i.plan.conclude none = ⟨1, "", errorText e.message⟩ := by
  rw [plan_of_error plain failed]
  rfl

theorem conclude_of_badOptions {cause : StreamOptions.ParseError} (plain : i.list = false)
    (failed : StreamOptions.parse (i.tunables.getD "") = .error cause) :
    i.plan.conclude none = ⟨1, "", optionsErrorText cause⟩ := by
  rw [← errorText_options]
  exact conclude_of_error plain (streams_of_error failed)

theorem conclude_of_other (plain : i.list = false)
    (parses : StreamOptions.parse (i.tunables.getD "") = .ok told) (other : i.profileName ≠ EndDx4.name) :
    i.plan.conclude none = ⟨1, "", i.profileErrorText⟩ := by
  obtain ⟨o, read, _⟩ := exists_overlay parses
  rw [← errorText_profileError]
  exact conclude_of_error plain (streams_of_other read other)

theorem conclude_of_long (plain : i.list = false) (read : i.options = .ok o)
    (named : i.profileName = EndDx4.name) (long : 65589 < o.frameLength) :
    i.plan.conclude none = ⟨1, "", "Error: failed to build packet template: PacketTooLarge\n"⟩ := by
  have text : errorText (RunError.profile (.template .packetTooLarge)).message =
      "Error: failed to build packet template: PacketTooLarge\n" := by decide +kernel
  rw [← text]
  exact conclude_of_error plain (streams_of_long read named long)

theorem details_of_decode (decoded : f.decode = .ok p) : i.details f = .ok (i.shown f p) := by
  rw [details, decoded, shown]
  cases i.decode <;> rfl

theorem streamLine_continuous (k : Nat) (f : Frame) : streamLine k ⟨f, .continuous⟩ =
    s!"stream {k}: Continuous, {f.length} bytes ({f.padding} padding)" := by
  have mode : ": " ++ ("Continuous" ++ ", ") = ": Continuous, " := by decide
  delta streamLine
  simp [TransmitMode.name, toString, ← mode, String.append_assoc]

theorem mapIdx_streamLine (f : Frame) (count : Nat) :
    (List.replicate count (⟨f, .continuous⟩ : Stream)).mapIdx streamLine = summary f count := by
  rw [summary]
  refine List.ext_getElem (by simp) fun k _ _ => ?_
  rw [List.getElem_mapIdx, List.getElem_map, List.getElem_replicate, List.getElem_range, streamLine_continuous]

theorem plan_of_frame {count : Nat} (plain : i.list = false) (decoded : f.decode = .ok p)
    (done : i.streams = .ok (.replicate count ⟨f, .continuous⟩)) :
    i.plan = {
      lines := summary f count ++ if count = 0 then [] else i.shown f p
      file := if count = 0 then none else i.output.map (·, f.data) } := by
  rw [plan, plain, done, ← mapIdx_streamLine]
  cases count with
  | zero => rfl
  | succ count => simp [List.replicate_succ, details_of_decode decoded]

/-- What a run prints and writes that ends well. -/
structure Delivers (i : Invocation) (o : StreamOptions) (c : Conclusion) (f : Frame) (p : Packet) : Prop where
  built : (i.template.build 0 (lengthWithoutCheck o.packetLength)).value = .ok f
  decoded : f.decode = .ok p
  length : (f.length : Int) = max o.frameLength 106
  padding : f.padding = f.length - 106
  octets : f.data.length = f.length
  stdout : ∃ lines, i.Shows f p lines ∧ c.stdout =
    String.join ((summary f o.streamCount ++ if o.streamCount = 0 then [] else lines).map (· ++ "\n"))
  file : i.plan.file = if o.streamCount = 0 then none else i.output.map (·, f.data)

/-- A run with options, the profile and a length that fits. -/
theorem delivers (plain : i.list = false) (read : i.options = .ok o) (named : i.profileName = EndDx4.name)
    (short : o.frameLength ≤ 65589) : (i.plan.conclude none).exitCode = 0 ∧
      ∃ f p, i.Delivers o (i.plan.conclude none) f p := by
  obtain ⟨f, p, built, decoded⟩ := i.exists_frame o short
  obtain ⟨length, padding, octets⟩ := lengths_of_build built
  have done := streams_of_name read named
  rw [createStreams_of_frame built] at done
  have plan := plan_of_frame plain decoded done
  have concluded := Plan.conclude_of_no_failure (show i.plan.failure = none by rw [plan])
  refine ⟨by rw [concluded], f, p, built, decoded, length, padding, octets, ⟨_, shows_iff.2 rfl, ?_⟩, by rw [plan]⟩
  rw [concluded, Plan.stdout, plan]

/-- All other runs fail. -/
theorem exists_error (refused : ¬∃ o, i.options = .ok o ∧ i.profileName = EndDx4.name ∧ o.frameLength ≤ 65589) :
    ∃ e, i.streams = .error e := by
  cases parses : StreamOptions.parse (i.tunables.getD "") with
  | error cause => exact ⟨_, streams_of_error parses⟩
  | ok told =>
    obtain ⟨o, read, _⟩ := exists_overlay parses
    by_cases named : i.profileName = EndDx4.name
    · have long : 65589 < o.frameLength := Int.lt_of_not_ge fun short => refused ⟨o, read, named, short⟩
      exact ⟨_, streams_of_long read named long⟩
    · exact ⟨_, streams_of_other read named⟩

/-- A run that is to send streams ends well if the text of options can be read, the profile is the one there
is, and a frame can have the length asked for; a file that it leaves is taken to be written. Otherwise it
prints and writes nothing, and its error is the first that is met: of the options, the profile, the frame. -/
theorem run_outcome (plain : i.list = false) : ∃ c, i.plan.conclude none = c ∧
    (c.exitCode = 0 ∨ c.exitCode = 1) ∧
    (c.exitCode = 0 ↔ ∃ told o, StreamOptions.parse (i.tunables.getD "") = .ok told ∧ i.options = .ok o ∧
      i.profileName = EndDx4.name ∧ o.frameLength ≤ 65589) ∧
    (∀ o, c.exitCode = 0 → i.options = .ok o → ∃ f p, i.Delivers o c f p) ∧
    (c.exitCode = 1 → c.stdout = "" ∧ i.plan.file = none) ∧
    (∀ cause, StreamOptions.parse (i.tunables.getD "") = .error cause →
      c = ⟨1, "", optionsErrorText cause⟩) ∧
    (∀ told, StreamOptions.parse (i.tunables.getD "") = .ok told → i.profileName ≠ EndDx4.name →
      c = ⟨1, "", i.profileErrorText⟩) ∧
    (∀ o, i.options = .ok o → i.profileName = EndDx4.name → 65589 < o.frameLength →
      c = ⟨1, "", "Error: failed to build packet template: PacketTooLarge\n"⟩) := by
  refine ⟨_, rfl, ?_⟩
  by_cases accepted : ∃ o, i.options = .ok o ∧ i.profileName = EndDx4.name ∧ o.frameLength ≤ 65589
  · obtain ⟨o, read, named, short⟩ := accepted
    obtain ⟨told, parses⟩ := parse_of_options read
    obtain ⟨exit, delivered⟩ := delivers plain read named short
    refine ⟨.inl exit, ⟨fun _ => ⟨told, o, parses, read, named, short⟩, fun _ => exit⟩, ?_, ?_,
      fun _ => conclude_of_badOptions plain, fun _ => conclude_of_other plain, fun _ => conclude_of_long plain⟩
    · intro o' _ read'
      cases read.symm.trans read'
      exact delivered
    · intro failed
      rw [exit] at failed
      contradiction
  · obtain ⟨e, failed⟩ := exists_error accepted
    have concluded := conclude_of_error plain failed
    have exit : (i.plan.conclude none).exitCode = 1 := by rw [concluded]
    have other : (i.plan.conclude none).exitCode ≠ 0 := by
      rw [exit]
      decide
    refine ⟨.inr exit, ⟨fun zero => absurd zero other, ?_⟩, fun _ zero => absurd zero other, ?_,
      fun _ => conclude_of_badOptions plain, fun _ => conclude_of_other plain, fun _ => conclude_of_long plain⟩
    · intro ⟨_, o, _, rest⟩
      exact absurd ⟨o, rest⟩ accepted
    · intro _
      rw [concluded, plan_of_error plain failed]
      exact ⟨rfl, rfl⟩

/-- Two streams, of which the layers and the octets are shown and the octets kept in a file. -/
def twoStreams : Invocation where
  packetLength := some 204
  streamCount := some 2
  output := some "frame.bin"
  hex := true
  decode := true

/-- A text that is no option, for a profile that nobody knows. -/
def twoMistakes : Invocation where
  tunables := some "packet_len"
  profile := some "none"

/-- The headers of the two streams. -/
def twoStreamsHeaders : Headers where
  ethernet := ⟨.broadcast, .zero, 0x86dd⟩
  ipv6 := ⟨0, 0, 146, 43, 64, .ofGroups 0xfc00 1 0 0 0 0 0 1, .ofGroups 0xfc00 2 0 0 0 0 0 2⟩
  routing := ⟨.ipInIp, 0, 0, 0, [.ofGroups 0xfc00 2 0 0 0 0 0 2], by decide, by decide⟩
  ipv4 := {
    dscp := 0
    ecn := 0
    totalLength := 122
    identification := 1
    dontFragment := false
    moreFragments := false
    fragmentOffset := 0
    timeToLive := 64
    protocol := 17
    checksum := 0x666e
    source := .ofOctets 10 1 0 1
    destination := .ofOctets 10 2 0 1
    options := .none }
  udp := ⟨10053, 10053, 102, 0x7e75⟩

def twoStreamsLayers : List String :=
  ["Ether  00:00:00:00:00:00 > ff:ff:ff:ff:ff:ff type=0x86dd",
    "IPv6   fc00:1::1 > fc00:2::2 hlim=64 plen=146",
    "SRH    len=2 segleft=0 lastentry=0 segments=[fc00:2::2]",
    "IPv4   10.1.0.1 > 10.2.0.1 ttl=64 len=122 chksum=0x666e",
    "UDP    10053 > 10053 len=102 chksum=0x7e75",
    "Raw    94 bytes"]

theorem lines_of_headers (headers : p.headers = twoStreamsHeaders) (payload : p.payload.length = 94) :
    LayerSummary.lines p = twoStreamsLayers := by
  rw [LayerSummary.lines, headers, payload]
  decide +kernel

theorem headers_of_decode {t : Template} {length : Int64} (built : (t.build 0 length).value = .ok f)
    (decoded : f.decode = .ok p) : t.headers f.padding = .ok p.headers ∧ p.payload.length = f.padding := by
  obtain ⟨q, made, carries⟩ := Template.headers_of_build built
  obtain ⟨_, again, headers, payload⟩ := carries.decodes
  cases decoded.symm.trans again
  rw [headers]
  refine ⟨made, ?_⟩
  rw [← p.payload.length_data, payload, carries.filled, List.length_replicate]

theorem run_outcome_sample :
    parse ["-n", "2", "-l204", "--decode", "--hex", "-o", "frame.bin"] = .ok twoStreams ∧
    twoStreams.list = false ∧
    (∃ (f : Frame) (c : Conclusion), twoStreams.plan.conclude none = c ∧ c.exitCode = 0 ∧
      c.stdout = String.join ((["stream 0: Continuous, 200 bytes (94 padding)",
        "stream 1: Continuous, 200 bytes (94 padding)"] ++ (twoStreamsLayers ++ HexDump.lines f.data)).map
          (· ++ "\n")) ∧
      f.data.length = 200 ∧ twoStreams.plan.file = some ("frame.bin", f.data)) ∧
    parse ["-t", "packet_len", "-p", "none"] = .ok twoMistakes ∧ twoMistakes.list = false ∧
    twoMistakes.plan.conclude none = ⟨1, "", "Error: expected `key=value`, got `packet_len`\n"⟩ := by
  have parses : StreamOptions.parse (twoStreams.tunables.getD "") = .ok {} := by decide
  have read : twoStreams.options = .ok { packetLength := 204, streamCount := 2 } := by decide
  obtain ⟨c, done, _, accepted, delivered, _⟩ := run_outcome (i := twoStreams) rfl
  obtain ⟨_, done', _, _, _, _, badOptions, _⟩ := run_outcome (i := twoMistakes) rfl
  have zero : c.exitCode = 0 := accepted.2 ⟨_, _, parses, read, rfl, by decide⟩
  obtain ⟨f, p, delivers⟩ := delivered _ zero read
  have long := delivers.length
  have length : f.length = 200 := Int.ofNat_inj.1 (long.trans (by decide))
  have padding : f.padding = 94 := by rw [delivers.padding, length]
  have lines : summary f 2 = ["stream 0: Continuous, 200 bytes (94 padding)",
      "stream 1: Continuous, 200 bytes (94 padding)"] := by
    rw [summary, length, padding]
    decide
  obtain ⟨made, payload⟩ := headers_of_decode delivers.built delivers.decoded
  have own : twoStreams.template.headers 94 = .ok twoStreamsHeaders := by decide +kernel
  rw [padding, own] at made
  obtain ⟨shown, shows, stdout⟩ := delivers.stdout
  have layers := lines_of_headers (Except.ok.inj made).symm (payload.trans padding)
  rw [← shows_iff.1 shows, Invocation.shown, layers] at stdout
  have octets := delivers.octets.trans length
  refine ⟨by decide, rfl, ⟨f, c, done, zero, ?_, octets, delivers.file⟩, by decide, rfl, ?_⟩
  · rw [← lines]
    exact stdout
  · rw [done', badOptions (.malformed "packet_len") (by decide)]
    decide

end Invocation
end CommandLine
end Srv6Traffic
