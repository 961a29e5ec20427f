import Srv6Traffic.Dictionary
import Srv6Traffic.Signed
import Srv6Traffic.Text.Blank
import Srv6Traffic.Text.Integer
import Srv6Traffic.Text.Split

/-! Options of a set of streams, and their text: entries `key=value` between commas. Blanks around
entries, keys and values do not count, nor do entries that are blank. Keys that no option has are
kept as they are, for the profile to use. -/
namespace Srv6Traffic

inductive Direction where
  | clientToServer
  | serverToClient
  deriving DecidableEq

def Direction.ofText? (text : String) : Option Direction :=
  if text = "0" then some .clientToServer
  else if text = "1" then some .serverToClient
  else none

structure StreamOptions where
  direction : Direction := .clientToServer
  packetLength : Int64 := 64
  streamCount : Nat := 1
  extra : Dictionary String := .empty
  deriving DecidableEq

namespace StreamOptions

inductive ParseError where
  | malformed (entry : String)
  | badValue (key value : String)
  deriving DecidableEq

def ParseError.message : ParseError → String
  | .malformed entry => s!"expected `key=value`, got `{entry}`"
  | .badValue key value => s!"invalid value `{value}` for `{key}`"

def integer (key value : String) : Except ParseError Int64 :=
  match Text.int64? value.toList with
  | some n => .ok n
  | none => .error (.badValue key value)

def keep (o : StreamOptions) (key value : String) : StreamOptions :=
  { o with extra := o.extra.insert key value }

/-- Sets the option that the key names. A direction that is none is kept with the unknown keys, and
a negative number of streams counts as zero. -/
def set (o : StreamOptions) (key value : String) : Except ParseError StreamOptions :=
  if key = "direction" then
    match Direction.ofText? value with
    | some direction => .ok { o with direction }
    | none => .ok (o.keep key value)
  else if key = "packet_len" then do
    return { o with packetLength := ← integer key value }
  else if key = "stream_count" then do
    return { o with streamCount := (Signed.unsigned? (← integer key value)).getD 0 }
  else .ok (o.keep key value)

def setEntry (o : StreamOptions) (entry : List Char) : Except ParseError StreamOptions :=
  match Text.cut? '=' entry with
  | some (key, value) => o.set (.ofList (Text.trim key)) (.ofList (Text.trim value))
  | none => .error (.malformed (.ofList entry))

def entries (text : List Char) : List (List Char) :=
  ((Text.pieces ',' text).map Text.trim).filter (· ≠ [])

def parse (text : String) : Except ParseError StreamOptions :=
  (entries text.toList).foldlM setEntry {}

end StreamOptions
end Srv6Traffic
