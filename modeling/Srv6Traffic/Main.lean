import Srv6Traffic.CommandLine.Run

/-! The program: reads its arguments, prints what the plan of the run says, and writes the file. -/
namespace Srv6Traffic.CommandLine

def helpText : String :=
  "Usage: srv6-bench [OPTIONS]\n\n" ++
  "Options:\n" ++
  "  -p, --profile <PROFILE>            [default: srv6_end_dx4]\n" ++
  "      --list\n" ++
  "  -t, --tunables <TUNABLES>          [default: ]\n" ++
  "  -l, --packet-len <PACKET_LEN>\n" ++
  "  -n, --stream-count <STREAM_COUNT>\n" ++
  "  -d, --direction <DIRECTION>\n" ++
  "      --dst-mac <DST_MAC>\n" ++
  "      --src-mac <SRC_MAC>\n" ++
  "      --hex\n" ++
  "      --decode\n" ++
  "  -o, --output <OUTPUT>\n" ++
  "  -h, --help                         Print help\n" ++
  "  -V, --version                      Print version\n"

/-- The words of the system for an error, without the name of the file. -/
def systemText : IO.Error → String
  | .noFileOrDirectory _ code details => s!"{details} (os error {code})"
  | .inappropriateType (some _) code details => s!"{details} (os error {code})"
  | .inappropriateType none code details => s!"{details} (os error {code})"
  | .permissionDenied _ code details => s!"{details} (os error {code})"
  | .invalidArgument _ code details => s!"{details} (os error {code})"
  | .resourceExhausted _ code details => s!"{details} (os error {code})"
  | .otherError code details => s!"{details} (os error {code})"
  | e => toString e

/-- Writes the file of a plan, and tells why not if it cannot be. -/
def writeFile (plan : Plan) : IO (Option String) := do
  match plan.failure, plan.file with
  | none, some (path, bytes) =>
    try
      IO.FS.writeBinFile path bytes.toByteArray
      return none
    catch e => return some (systemText e)
  | _, _ => return none

def run (i : Invocation) : IO UInt32 := do
  let plan := i.plan
  let refused ← writeFile plan
  let conclusion := plan.conclude refused
  IO.print conclusion.stdout
  IO.eprint conclusion.stderr
  return conclusion.exitCode.toUInt32

/-- Prints what stands in place of a run. -/
def answer : Stop → IO UInt32
  | .help => do
    IO.print helpText
    return 0
  | .version => do
    IO.print versionText
    return 0
  | .usage => do
    IO.eprintln "error: the command line cannot be read; try --help"
    return 2

end Srv6Traffic.CommandLine

def main (arguments : List String) : IO UInt32 :=
  match Srv6Traffic.CommandLine.parse arguments with
  | .ok invocation => Srv6Traffic.CommandLine.run invocation
  | .error stop => Srv6Traffic.CommandLine.answer stop
