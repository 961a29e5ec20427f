import Srv6Traffic.CommandLine.Arguments
import Srv6Traffic.CommandLine.HexDump
import Srv6Traffic.CommandLine.LayerSummary
import Srv6Traffic.Stream.Registry

/-! A run of the program, worked out before anything is printed or written: the lines it prints, the
error it ends with, and the file it leaves. -/
namespace Srv6Traffic.CommandLine

inductive RunError where
  | options (cause : StreamOptions.ParseError)
  | profile (cause : ProfileError)
  | addressesNeedEndDx4
  | undecodable (field : Field)
  deriving DecidableEq

def RunError.message : RunError → String
  | .options cause => cause.message
  | .profile cause => cause.message
  | .addressesNeedEndDx4 => "--dst-mac and --src-mac only apply to " ++ EndDx4.name
  | .undecodable field =>
    "template does not decode: Decoding \x7b field: \"" ++ field.name ++ "\" \x7d"

structure Plan where
  lines : List String := []
  failure : Option RunError := none
  file : Option (String × Bytes) := none

namespace Invocation

/-- The options of the tunables, with those in their place that have a setting of their own. -/
def options (i : Invocation) : Except StreamOptions.ParseError StreamOptions := do
  let o ← StreamOptions.parse (i.tunables.getD "")
  let o := { o with packetLength := i.packetLength.getD o.packetLength }
  let o := { o with streamCount := i.streamCount.getD o.streamCount }
  match i.direction with
  | some direction => o.set "direction" direction
  | none => return o

def selectedProfile (i : Invocation) : Except RunError Profile :=
  let name := i.profile.getD EndDx4.name
  if i.destinationMac.isNone && i.sourceMac.isNone then
    (Registry.builtin.create name).mapError .profile
  else if name ≠ EndDx4.name then .error .addressesNeedEndDx4
  else
    let t : Template := {}
    .ok (EndDx4.profile { t with
      destinationMac := i.destinationMac.getD t.destinationMac
      sourceMac := i.sourceMac.getD t.sourceMac })

def streams (i : Invocation) : Except RunError (List Stream) := do
  let options ← i.options.mapError .options
  let profile ← i.selectedProfile
  (profile.streams 0 options).value.mapError .profile

def streamLine (index : Nat) (s : Stream) : String :=
  s!"stream {index}: {s.mode.name}, {s.frame.length} bytes ({s.frame.padding} padding)"

/-- What is shown of the frame of the first stream. -/
def details (i : Invocation) (frame : Frame) : Except RunError (List String) := do
  let layers ←
    if i.decode then LayerSummary.lines <$> frame.decode.mapError .undecodable else pure []
  return layers ++ if i.hex then HexDump.lines frame.data else []

def plan (i : Invocation) : Plan :=
  if i.list then { lines := Registry.builtin.names }
  else match i.streams with
    | .error e => { failure := some e }
    | .ok streams =>
      let summary := streams.mapIdx streamLine
      match streams with
      | [] => { lines := summary }
      | first :: _ =>
        match i.details first.frame with
        | .error e => { lines := summary, failure := some e }
        | .ok details => {
            lines := summary ++ details
            file := i.output.map (·, first.frame.data) }

end Invocation

/-- What the caller sees of a run that is over. -/
structure Conclusion where
  exitCode : UInt8
  stdout : String
  stderr : String
  deriving DecidableEq

def errorText (message : String) : String := s!"Error: {message}\n"

def writeErrorText (path reason : String) : String :=
  s!"Error: failed to write {path}\n\nCaused by:\n    {reason}\n"

namespace Plan

def stdout (p : Plan) : String := String.join (p.lines.map (· ++ "\n"))

/-- The conclusion of a plan, given the reason why its file could not be written, if so. -/
def conclude (p : Plan) (refused : Option String) : Conclusion :=
  match p.failure, p.file, refused with
  | some e, _, _ => ⟨1, p.stdout, errorText e.message⟩
  | none, some (path, _), some reason => ⟨1, p.stdout, writeErrorText path reason⟩
  | none, _, _ => ⟨0, p.stdout, ""⟩

end Plan

def versionText : String := "srv6-bench 0.1.0\n"

end Srv6Traffic.CommandLine
