import Srv6Traffic.Proofs.Address.Mac
import Srv6Traffic.Proofs.CommandLine.Grammar
import Srv6Traffic.Proofs.CommandLine.Outcome

/-! Link-layer addresses on their way from the command line to the wire. The text of an address is read as that
address, and an address that is given stands in its place in each frame that is sent or kept in a file. -/
namespace Srv6Traffic.CommandLine
variable {i i' j : Invocation} {t : Template} {mac : Mac}

/-- The two addresses of a frame. -/
inductive Address where
  | destination
  | source
  deriving DecidableEq

namespace Address
variable {address : Address}

def name : Address → String
  | .destination => "dst-mac"
  | .source => "src-mac"

def setting : Address → Setting
  | .destination => .destinationMac
  | .source => .sourceMac

/-- Where the address stands in a frame. -/
def offset : Address → Nat
  | .destination => 0
  | .source => 6

def given? (i : Invocation) : Address → Option Mac
  | .destination => i.destinationMac
  | .source => i.sourceMac

def inTemplate (t : Template) : Address → Mac
  | .destination => t.destinationMac
  | .source => t.sourceMac

theorem ofLong?_name (address : Address) : Setting.ofLong? address.name = some address.setting := by
  cases address <;> decide

/-- An address that is assigned is the one that the text is read as. -/
theorem given?_of_assign {text : String} (assigned : i.assign? address.setting text = some i')
    (read : Mac.parse text = .ok mac) : address.given? i' = some mac := by
  cases address with
  | destination | source =>
    obtain ⟨filled, once, rfl⟩ := Option.map_eq_some_iff.1 assigned
    rw [read] at once
    exact (Invocation.once_eq_some_iff.1 once).2.2

/-- An address that is given stays, since none is given twice. -/
theorem given?_assign {setting : Setting} {text : String} (given : address.given? i = some mac)
    (assigned : i.assign? setting text = some i') : address.given? i' = some mac := by
  cases setting with
  | destinationMac =>
    obtain ⟨filled, once, rfl⟩ := Option.map_eq_some_iff.1 assigned
    cases address with
    | destination => cases given.symm.trans (Invocation.once_eq_some_iff.1 once).1
    | source => exact given
  | sourceMac =>
    obtain ⟨filled, once, rfl⟩ := Option.map_eq_some_iff.1 assigned
    cases address with
    | destination => exact given
    | source => cases given.symm.trans (Invocation.once_eq_some_iff.1 once).1
  | profile | tunables | packetLength | streamCount | direction | output =>
    obtain ⟨filled, once, rfl⟩ := Option.map_eq_some_iff.1 assigned
    cases address <;> exact given

theorem given?_turnOn {switch : Switch} (given : address.given? i = some mac)
    (turned : i.turnOn? switch = some i') : address.given? i' = some mac := by
  cases switch with
  | list | hex | decode =>
    obtain ⟨_, same⟩ := Option.ite_none_left_eq_some.1 turned
    obtain rfl := Option.some.inj same
    cases address <;> exact given

theorem given?_scans {arguments : List String} (given : address.given? i = some mac)
    (scans : Scans i arguments j) : address.given? j = some mac := by
  induction scans with
  | done | terminated => exact given
  | attached _ assigned _ ih => exact ih (given?_assign given assigned)
  | separate _ _ assigned _ ih => exact ih (given?_assign given assigned)
  | switched _ turned _ ih => exact ih (given?_turnOn given turned)

theorem given?_parse {arguments : List String} (gives : Gives arguments address.name mac.render)
    (parsed : parse arguments = .ok i) : address.given? i = some mac := by
  have nonempty : address.name.toList ≠ [] := by cases address <;> decide
  have free : '=' ∉ address.name.toList := by cases address <;> decide
  obtain ⟨_, after, rest, assigned, more⟩ :=
    (parse_eq_ok_iff.1 parsed).assigns address.ofLong?_name nonempty free gives
  exact given?_scans (given?_of_assign assigned (Mac.parse_render mac)) more

theorem inTemplate_of_given (given : address.given? i = some mac) : address.inTemplate i.template = mac := by
  cases address with
  | destination | source => exact congrArg (Option.getD · _) given

/-- The addresses of a template are the first twelve octets of its frames. -/
theorem cut_frame {f : Frame} {p : Packet} (carries : f.Carries t p) (address : Address) :
    cut f.data address.offset 6 = (address.inTemplate t).octets.val := by
  have stand := carries.placed.standIn.ethernet
  cases address with
  | destination => exact stand.destination.trans (congrArg (·.octets.val) carries.configured.destinationMac)
  | source => exact stand.source.trans (congrArg (·.octets.val) carries.configured.sourceMac)

end Address

namespace Invocation
variable {address : Address} {refused : Option String}

/-- All streams of a run send one frame of the template. -/
theorem exists_sent {streams : List Stream} (done : i.streams = .ok streams) : ∃ (o : StreamOptions) (f : Frame)
    (p : Packet), (i.template.build 0 (EndDx4.lengthWithoutCheck o.packetLength)).value = .ok f ∧
      f.decode = .ok p ∧ streams = .replicate o.streamCount ⟨f, .continuous⟩ := by
  have accepted : ∃ o, i.options = .ok o ∧ i.profileName = EndDx4.name ∧ o.frameLength ≤ 65589 := by
    by_contra other
    obtain ⟨e, failed⟩ := exists_error other
    cases done.symm.trans failed
  obtain ⟨o, read, named, short⟩ := accepted
  obtain ⟨f, p, built, decoded⟩ := i.exists_frame o short
  have sent := streams_of_name read named
  rw [EndDx4.createStreams_of_frame built] at sent
  exact ⟨o, f, p, built, decoded, Except.ok.inj (done.symm.trans sent)⟩

theorem exists_streams (plain : i.list = false) (zero : (i.plan.conclude refused).exitCode = 0) :
    ∃ streams, i.streams = .ok streams := by
  cases done : i.streams with
  | error e =>
    rw [plan_of_error plain done] at zero
    exact absurd (show (1 : UInt8) = 0 from zero) (by decide)
  | ok streams => exact ⟨streams, rfl⟩

theorem streams_of_file {path : String} {bytes : Bytes} (kept : i.plan.file = some (path, bytes)) :
    i.list = false ∧ ∃ streams, i.streams = .ok streams := by
  cases plain : i.list with
  | true =>
    rw [plan, plain] at kept
    contradiction
  | false =>
    cases done : i.streams with
    | error e =>
      rw [plan_of_error plain done] at kept
      contradiction
    | ok streams => exact ⟨rfl, streams, rfl⟩

/-- Each frame that a run sends or keeps in a file has an address in the place for it. A run that ends well sends
its frames, unless it only lists the profiles. -/
structure Sends (i : Invocation) (address : Address) (mac : Mac) : Prop where
  streams : ∀ streams, i.streams = .ok streams →
    ∀ stream ∈ streams, cut stream.frame.data address.offset 6 = mac.octets.val
  file : ∀ path bytes, i.plan.file = some (path, bytes) → cut bytes address.offset 6 = mac.octets.val
  done : ∀ refused, (i.plan.conclude refused).exitCode = 0 → i.list = true ∨ ∃ streams, i.streams = .ok streams

theorem cut_built {o : StreamOptions} {f : Frame} (given : address.given? i = some mac)
    (built : (i.template.build 0 (EndDx4.lengthWithoutCheck o.packetLength)).value = .ok f) :
    cut f.data address.offset 6 = mac.octets.val := by
  obtain ⟨_, _, carries⟩ := Template.carries_of_build built
  rw [Address.cut_frame carries, Address.inTemplate_of_given given]

theorem sends (given : address.given? i = some mac) : i.Sends address mac where
  streams := by
    intro streams done stream there
    obtain ⟨_, f, _, built, _, rfl⟩ := exists_sent done
    rw [List.eq_of_mem_replicate there]
    exact cut_built given built
  file := by
    intro path bytes kept
    obtain ⟨plain, streams, done⟩ := streams_of_file kept
    obtain ⟨_, f, _, built, decoded, rfl⟩ := exists_sent done
    rw [plan_of_frame plain decoded done] at kept
    obtain ⟨_, written⟩ := Option.ite_none_left_eq_some.1 kept
    obtain ⟨_, _, same⟩ := Option.map_eq_some_iff.1 written
    rw [← (Prod.mk.inj same).2]
    exact cut_built given built
  done := by
    intro refused zero
    cases plain : i.list with
    | true => exact .inl rfl
    | false => exact .inr (exists_streams plain zero)

end Invocation

theorem hyphen_notMem (mac : Mac) : '-' ∉ mac.render.toList := by
  obtain ⟨groups, _, two, joined⟩ := mac.sixGroups_render
  rw [← joined, Text.mem_intercalate_iff (by decide)]
  rintro ⟨group, there, hyphen⟩
  obtain ⟨h, l⟩ := two group there
  have apart : ¬Hex.IsDigit '-' := by decide
  obtain rfl | rfl : '-' = _ ∨ '-' = _ := by simpa using hyphen
  · exact apart h
  · exact apart l

/-- A command line that gives nothing but one address. -/
def onlyAddress (mac : Mac) : Address → Invocation
  | .destination => { destinationMac := some mac }
  | .source => { sourceMac := some mac }

theorem parse_onlyAddress (mac : Mac) (address : Address) :
    parse ["--" ++ address.name, mac.render] = .ok (onlyAddress mac address) := by
  have named : Argument.ofChars ("--" ++ address.name).toList = .setting address.setting none := by
    cases address <;> decide
  refine parse_eq_ok_iff.2 (.separate named (accepts_of_notMem _ (hyphen_notMem mac)) ?_ .done)
  cases address with
  | destination | source =>
    rw [Address.setting, Invocation.assign?, Mac.parse_render]
    rfl

theorem onlyAddress_succeeds (mac : Mac) (address : Address) :
    (onlyAddress mac address).list = false ∧ ((onlyAddress mac address).plan.conclude none).exitCode = 0 := by
  have parses : StreamOptions.parse "" = .ok {} := by decide
  have short : ({} : StreamOptions).frameLength ≤ 65589 := by decide
  cases address with
  | destination | source =>
    refine ⟨rfl, (Invocation.delivers rfl ?_ rfl short).1⟩
    exact congrArg (· >>= _) parses

/-- The text of an address is read as that address, so no other has the same text. On a command line it is taken
for each of the two addresses of a frame, and all that a run sends and keeps then has the octets in the place of
that address, whatever else is given. -/
theorem addresses_reach_wire (mac : Mac) :
    Mac.SixGroups Hex.TwoDigits mac.render.toList ∧ Mac.parse mac.render = .ok mac ∧
      (∀ other : Mac, other.render = mac.render → other = mac) ∧
      ∀ address : Address,
        (∃ i, parse ["--" ++ address.name, mac.render] = .ok i ∧ i.list = false ∧
          (i.plan.conclude none).exitCode = 0) ∧
        ∀ arguments i, Gives arguments address.name mac.render → parse arguments = .ok i → i.Sends address mac := by
  refine ⟨mac.sixGroups_render, mac.parse_render, fun other same => Mac.render_injective same,
    fun address => ⟨?_, ?_⟩⟩
  · obtain ⟨plain, zero⟩ := onlyAddress_succeeds mac address
    exact ⟨onlyAddress mac address, parse_onlyAddress mac address, plain, zero⟩
  · intro arguments i gives parsed
    exact Invocation.sends (Address.given?_parse gives parsed)

/-- Both addresses, a count and a file. -/
def bothAddresses : Invocation where
  streamCount := some 2
  output := some "frame.bin"
  destinationMac := some ⟨[0x0f, 0x1e, 0x2d, 0x3c, 0x4b, 0x5a], rfl⟩
  sourceMac := some ⟨[0x02, 0x00, 0x00, 0x00, 0x00, 0x0a], rfl⟩

theorem addresses_sample :
    parse ["--src-mac=02:00:00:00:00:0a", "-n", "2", "-o", "frame.bin", "--dst-mac", "0f:1e:2d:3c:4b:5a"] =
      .ok bothAddresses ∧ (bothAddresses.plan.conclude none).exitCode = 0 ∧
    (∃ streams, bothAddresses.streams = .ok streams ∧ ∀ stream ∈ streams,
      cut stream.frame.data 0 6 = [0x0f, 0x1e, 0x2d, 0x3c, 0x4b, 0x5a]) ∧
    ∃ bytes, bothAddresses.plan.file = some ("frame.bin", bytes) ∧
      cut bytes 6 6 = [0x02, 0x00, 0x00, 0x00, 0x00, 0x0a] := by
  have parsed : parse ["--src-mac=02:00:00:00:00:0a", "-n", "2", "-o", "frame.bin", "--dst-mac",
    "0f:1e:2d:3c:4b:5a"] = .ok bothAddresses := by decide
  have read : bothAddresses.options = .ok { streamCount := 2 } := by decide
  obtain ⟨zero, f, p, delivers⟩ := Invocation.delivers rfl read rfl (by decide)
  have destination : bothAddresses.Sends .destination _ :=
    ((addresses_reach_wire ⟨[0x0f, 0x1e, 0x2d, 0x3c, 0x4b, 0x5a], rfl⟩).2.2.2 .destination).2 _ _
      (.inl (by decide)) parsed
  have source : bothAddresses.Sends .source _ :=
    ((addresses_reach_wire ⟨[0x02, 0x00, 0x00, 0x00, 0x00, 0x0a], rfl⟩).2.2.2 .source).2 _ _
      (.inr (by decide)) parsed
  obtain listed | ⟨streams, done⟩ := destination.done none zero
  · exact absurd listed (by decide)
  · exact ⟨parsed, zero, ⟨streams, done, destination.streams streams done⟩, f.data, delivers.file,
      source.file _ _ delivers.file⟩

end Srv6Traffic.CommandLine
