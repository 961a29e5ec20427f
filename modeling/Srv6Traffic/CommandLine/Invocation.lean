import Srv6Traffic.Stream.Options
import Srv6Traffic.Address.Mac

/-! What a command line asks for. A setting takes a value, a switch takes none, and each may be
given once. -/
namespace Srv6Traffic.CommandLine

structure Invocation where
  profile : Option String := none
  tunables : Option String := none
  packetLength : Option Int64 := none
  streamCount : Option Nat := none
  direction : Option String := none
  destinationMac : Option Mac := none
  sourceMac : Option Mac := none
  output : Option String := none
  list : Bool := false
  hex : Bool := false
  decode : Bool := false
  deriving DecidableEq

inductive Setting where
  | profile | tunables | packetLength | streamCount | direction
  | destinationMac | sourceMac | output
  deriving DecidableEq

inductive Switch where
  | list | hex | decode
  deriving DecidableEq

namespace Setting

def ofLong? (name : String) : Option Setting :=
  if name = "profile" then some .profile
  else if name = "tunables" then some .tunables
  else if name = "packet-len" then some .packetLength
  else if name = "stream-count" then some .streamCount
  else if name = "direction" then some .direction
  else if name = "dst-mac" then some .destinationMac
  else if name = "src-mac" then some .sourceMac
  else if name = "output" then some .output
  else none

def ofShort? : Char → Option Setting
  | 'p' => some .profile
  | 't' => some .tunables
  | 'l' => some .packetLength
  | 'n' => some .streamCount
  | 'd' => some .direction
  | 'o' => some .output
  | _ => none

/-- Whether a number may follow as a separate argument although it starts with a hyphen. -/
def takesNegative : Setting → Bool
  | .packetLength | .direction => true
  | _ => false

end Setting

def Switch.ofLong? (name : String) : Option Switch :=
  if name = "list" then some .list
  else if name = "hex" then some .hex
  else if name = "decode" then some .decode
  else none

namespace Invocation

/-- Fills a place that is still free, if there is a value for it. -/
def once {α : Type} (place value : Option α) : Option (Option α) :=
  if place.isNone && value.isSome then some value else none

def assign? (i : Invocation) (setting : Setting) (value : String) : Option Invocation :=
  match setting with
  | .profile => (once i.profile (some value)).map ({ i with profile := · })
  | .tunables => (once i.tunables (some value)).map ({ i with tunables := · })
  | .packetLength =>
    (once i.packetLength (Text.int64? value.toList)).map ({ i with packetLength := · })
  | .streamCount =>
    (once i.streamCount (Text.count? value.toList)).map ({ i with streamCount := · })
  | .direction => (once i.direction (some value)).map ({ i with direction := · })
  | .destinationMac =>
    (once i.destinationMac (Mac.parse value).toOption).map ({ i with destinationMac := · })
  | .sourceMac => (once i.sourceMac (Mac.parse value).toOption).map ({ i with sourceMac := · })
  | .output =>
    (once i.output (if value = "" then none else some value)).map ({ i with output := · })

def turnOn? (i : Invocation) : Switch → Option Invocation
  | .list => if i.list then none else some { i with list := true }
  | .hex => if i.hex then none else some { i with hex := true }
  | .decode => if i.decode then none else some { i with decode := true }

end Invocation
end Srv6Traffic.CommandLine
