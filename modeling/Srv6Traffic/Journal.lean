/-! What the program records about its work, and values that come with such records. -/
namespace Srv6Traffic

inductive Record where
  | templateBuilt (length padding segments : Nat)
  | optionIgnored (profile key value : String)
  | profileRegistered (name : String)
  deriving DecidableEq

namespace Record

def level : Record → String
  | .optionIgnored _ _ _ => "TRACE"
  | .templateBuilt _ _ _ | .profileRegistered _ => "DEBUG"

def message : Record → String
  | .templateBuilt length padding segments =>
    s!"built SRv6 template: {length} bytes ({padding} padding, {segments} segments)"
  | .optionIgnored profile key value => s!"{profile}: ignoring option {key}={value}"
  | .profileRegistered name => s!"registered profile `{name}`"

def render (r : Record) : String := r.level ++ " " ++ r.message

theorem render_templateBuilt (length padding segments : Nat) :
    (templateBuilt length padding segments).render =
      s!"DEBUG built SRv6 template: {length} bytes ({padding} padding, {segments} segments)" := by
  have front : "DEBUG" ++ " " ++ "built SRv6 template: " = "DEBUG built SRv6 template: " := by decide
  change "DEBUG" ++ " " ++ s!"built SRv6 template: {length} bytes ({padding} padding, {segments} segments)" = _
  simp only [toString, ← String.append_assoc]
  rw [front]

theorem render_optionIgnored (profile key value : String) :
    (optionIgnored profile key value).render = s!"TRACE {profile}: ignoring option {key}={value}" := by
  have front : "TRACE" ++ " " = "TRACE " := by decide
  change "TRACE" ++ " " ++ s!"{profile}: ignoring option {key}={value}" = _
  simp only [toString, ← String.append_assoc]
  rw [front]

theorem render_profileRegistered (name : String) :
    (profileRegistered name).render = s!"DEBUG registered profile `{name}`" := by
  have front : "DEBUG" ++ " " ++ "registered profile `" = "DEBUG registered profile `" := by decide
  change "DEBUG" ++ " " ++ s!"registered profile `{name}`" = _
  simp only [toString, ← String.append_assoc]
  rw [front]

end Record

/-- A value and the records made on the way to it, oldest first. -/
structure Traced (α : Type) where
  value : α
  records : List Record := []

namespace Traced

instance : Monad Traced where
  pure a := ⟨a, []⟩
  bind x f := ⟨(f x.value).value, x.records ++ (f x.value).records⟩

def record (records : List Record) : Traced Unit := ⟨(), records⟩

theorem value_bind {α β : Type} (x : Traced α) (f : α → Traced β) :
    (x >>= f).value = (f x.value).value := rfl

theorem records_bind {α β : Type} (x : Traced α) (f : α → Traced β) :
    (x >>= f).records = x.records ++ (f x.value).records := rfl

end Traced
end Srv6Traffic
