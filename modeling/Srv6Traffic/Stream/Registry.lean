import Srv6Traffic.Stream.EndDx4

/-! Constructors of profiles by the names they are registered under. The first registration of a name
holds, and each request for a profile runs its constructor. -/
namespace Srv6Traffic

structure Registry where
  constructors : Dictionary Profile.Constructor := .empty

namespace Registry

def empty : Registry := {}
def builtin : Registry := ⟨Dictionary.empty.insert EndDx4.name EndDx4.make⟩

def names (r : Registry) : List String := r.constructors.keys

def register (r : Registry) (name : String) (make : Profile.Constructor) :
    Traced (Except ProfileError Registry) :=
  if r.constructors.contains name then ⟨.error (.duplicate name), []⟩
  else ⟨.ok ⟨r.constructors.insert name make⟩, [.profileRegistered name]⟩

def create (r : Registry) (name : String) : Except ProfileError Profile :=
  match r.constructors.get? name with
  | some make => .ok (make ())
  | none => .error (.unknown name)

end Registry
end Srv6Traffic
