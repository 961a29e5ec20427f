import Srv6Traffic.Text.Hex
import Srv6Traffic.Text.Split

/-! Link-layer addresses. Their text is six octets in hexadecimal, joined by colons. -/
namespace Srv6Traffic

structure Mac where
  octets : Octets 6
  deriving DecidableEq

namespace Mac

inductive ParseError where
  | malformed
  deriving DecidableEq

def ParseError.message : ParseError → String
  | .malformed => "invalid MAC address syntax"

def broadcast : Mac := ⟨List.replicate 6 0xff, rfl⟩
def zero : Mac := ⟨List.replicate 6 0, rfl⟩

def text (mac : Mac) : List Char := [':'].intercalate (mac.octets.val.map Hex.octet)
def render (mac : Mac) : String := .ofList mac.text

def parseChars? (text : List Char) : Option Mac := do
  let octets ← (Text.pieces ':' text).mapM Hex.octet?
  if h : octets.length = 6 then some ⟨octets, h⟩ else none

def parse (text : String) : Except ParseError Mac :=
  match parseChars? text.toList with
  | some mac => .ok mac
  | none => .error .malformed

end Mac
end Srv6Traffic
