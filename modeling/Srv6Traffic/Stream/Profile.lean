import Srv6Traffic.Stream.Basic
import Srv6Traffic.Stream.Options

/-! Profiles turn options into streams. A profile is known by its name. -/
namespace Srv6Traffic

inductive ProfileError where
  | template (cause : Template.BuildError)
  | unknown (name : String)
  | duplicate (name : String)
  deriving DecidableEq

def ProfileError.message : ProfileError → String
  | .template cause => "failed to build packet template: " ++ cause.message
  | .unknown name => s!"unknown profile `{name}`"
  | .duplicate name => s!"profile `{name}` already registered"

/-- The buffers that the streams need take serial numbers from the one given on. -/
structure Profile where
  name : String
  streams : (serial : Nat) → StreamOptions → Traced (Except ProfileError (List Stream))

/-- Makes a profile when it is run. -/
abbrev Profile.Constructor := Unit → Profile

end Srv6Traffic
