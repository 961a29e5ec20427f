import Srv6Traffic.Proofs.Dictionary
import Srv6Traffic.Proofs.Text.Order
import Srv6Traffic.Stream.Registry

/-! Registries over whole runs of requests. What a registry holds is told by the registrations that went
through, on top of what it began with: the first one of each name. Every answer, every name and every record
follows from that list. -/
namespace Srv6Traffic

theorem isSome_lookup_iff {α : Type} {entries : List (String × α)} {key : String} :
    (entries.lookup key).isSome = true ↔ key ∈ entries.map (·.1) := by
  rw [List.lookup_isSome_iff, List.mem_map]
  constructor
  · intro ⟨entry, there, same⟩
    exact ⟨entry, there, (beq_iff_eq.1 same).symm⟩
  · intro ⟨entry, there, same⟩
    exact ⟨entry, there, beq_iff_eq.2 same.symm⟩

namespace Registry

/-- What is asked of a registry. -/
inductive Request where
  | register (name : String) (make : Profile.Constructor)
  | create (name : String)

inductive Answer where
  | registered
  | created (profile : Profile)
  | refused (e : ProfileError)

/-- Answers a request. A registry that refuses a registration is the one it was. -/
def answer (r : Registry) : Request → Traced (Answer × Registry)
  | .register name make => do
    match ← r.register name make with
    | .ok r' => return (.registered, r')
    | .error e => return (.refused e, r)
  | .create name =>
    match r.create name with
    | .ok profile => return (.created profile, r)
    | .error e => return (.refused e, r)

def run (r : Registry) : List Request → Traced (List Answer × Registry)
  | [] => return ([], r)
  | request :: requests =>
    let first := r.answer request
    let rest := first.value.2.run requests
    ⟨(first.value.1 :: rest.value.1, rest.value.2), first.records ++ rest.records⟩

/-- The registration that is asked for, if it is one. -/
def Request.registration? : Request → Option (String × Profile.Constructor)
  | .register name make => some (name, make)
  | .create _ => none

/-- The registrations asked for, in the order of the calls. -/
def asked (requests : List Request) : List (String × Profile.Constructor) := requests.filterMap Request.registration?

/-- The registration that goes through with an answer. -/
def admitted (request : Request) : Answer → Option (String × Profile.Constructor)
  | .registered => request.registration?
  | .created _ | .refused _ => none

/-- The registrations that went through, in the order of the calls. -/
def granted : List Request → List Answer → List (String × Profile.Constructor)
  | request :: requests, given :: answers => (admitted request given).toList ++ granted requests answers
  | _, _ => []

def recordsOf (registrations : List (String × Profile.Constructor)) : List Record :=
  registrations.map fun entry => .profileRegistered entry.1

theorem render_recordsOf (registrations : List (String × Profile.Constructor)) :
    (recordsOf registrations).map Record.render =
      registrations.map fun entry => s!"DEBUG registered profile `{entry.1}`" := by
  rw [recordsOf, List.map_map]
  exact List.map_congr_left fun entry _ => Record.render_profileRegistered entry.1

/-- A registry that holds these registrations, of which no two have one name. -/
structure Holds (past : List (String × Profile.Constructor)) (r : Registry) : Prop where
  bound : ∀ name, r.constructors.get? name = past.lookup name
  distinct : (past.map (·.1)).Nodup

section
variable {past : List (String × Profile.Constructor)} {r r' : Registry} {name : String} {make : Profile.Constructor}
  {request : Request} {requests : List Request} {given : Answer} {answers : List Answer}
  {records records' : List Record}

theorem Holds.mem_names_iff (holds : Holds past r) : name ∈ r.names ↔ name ∈ past.map (·.1) := by
  rw [← isSome_lookup_iff, ← holds.bound]
  exact isSome_lookup_iff.symm

theorem Holds.lookup_of_notMem (holds : Holds past r) (fresh : name ∉ r.names) : past.lookup name = none := by
  rw [holds.mem_names_iff, ← isSome_lookup_iff, Option.not_isSome_iff_eq_none] at fresh
  exact fresh

theorem Holds.insert (holds : Holds past r) (fresh : name ∉ r.names) (make : Profile.Constructor) :
    Holds (past ++ [(name, make)]) ⟨r.constructors.insert name make⟩ where
  bound other := by
    rw [Dictionary.get?_insert, List.lookup_append, holds.bound, Dictionary.lookup_cons]
    split
    next same => rw [same, holds.lookup_of_notMem fresh, Option.none_or]
    next => rw [List.lookup_nil, Option.or_none]
  distinct := by
    rw [holds.mem_names_iff] at fresh
    rw [List.map_append, List.nodup_append]
    refine ⟨holds.distinct, List.pairwise_singleton _ name, ?_⟩
    intro other there new isNew same
    rw [same, List.mem_singleton.1 isNew] at there
    exact fresh there

theorem contains_iff : r.constructors.contains name = true ↔ name ∈ r.names := isSome_lookup_iff

theorem answer_register_of_notMem (fresh : name ∉ r.names) : r.answer (.register name make) =
    ⟨(.registered, ⟨r.constructors.insert name make⟩), [.profileRegistered name]⟩ := by
  rw [answer, register, if_neg (mt contains_iff.1 fresh)]
  rfl

theorem answer_register_of_mem (known : name ∈ r.names) (make : Profile.Constructor) :
    r.answer (.register name make) = ⟨(.refused (.duplicate name), r), []⟩ := by
  rw [answer, register, if_pos (contains_iff.2 known)]
  rfl

theorem answer_create_of_some (bound : r.constructors.get? name = some make) :
    r.answer (.create name) = ⟨(.created (make ()), r), []⟩ := by
  rw [answer, create, bound]
  rfl

theorem answer_create_of_none (free : r.constructors.get? name = none) :
    r.answer (.create name) = ⟨(.refused (.unknown name), r), []⟩ := by
  rw [answer, create, free]
  rfl

theorem run_nil (r : Registry) : r.run [] = ⟨([], r), []⟩ := rfl

theorem run_cons (first : r.answer request = ⟨(given, r'), records⟩)
    {last : Registry} (rest : r'.run requests = ⟨(answers, last), records'⟩) :
    r.run (request :: requests) = ⟨(given :: answers, last), records ++ records'⟩ := by
  rw [run, first, rest]

/-- One more request is answered by the registry that the others have left. -/
theorem run_concat (done : r.run requests = ⟨(answers, r'), records⟩) {last : Registry}
    (next : r'.answer request = ⟨(given, last), records'⟩) :
    r.run (requests ++ [request]) = ⟨(answers ++ [given], last), records ++ records'⟩ := by
  induction requests generalizing r answers records with
  | nil =>
    cases done
    rw [List.nil_append, run_cons next (run_nil last), List.append_nil]
    rfl
  | cons first requests ih =>
    cases done
    rw [List.cons_append, run_cons rfl (ih rfl), List.append_assoc]
    rfl

theorem Holds.append_nil (holds : Holds past r) : Holds (past ++ []) r := by rwa [List.append_nil]

/-- A registration of a name that has come before makes no difference to what is found first. -/
theorem Holds.lookup_again (holds : Holds past r) (known : name ∈ r.names) (other : String) :
    past.lookup other = (past ++ [(name, make)]).lookup other := by
  rw [List.lookup_append, Dictionary.lookup_cons]
  split
  next same =>
    rw [holds.mem_names_iff, ← isSome_lookup_iff] at known
    rw [same, Option.or_of_isSome known]
  next => rw [List.lookup_nil, Option.or_none]

/-- What one request can do. Its answer says whether a registration went through, and only then there is a
record. -/
theorem exists_answer (holds : Holds past r) (request : Request) :
    ∃ given r', r.answer request = ⟨(given, r'), recordsOf (admitted request given).toList⟩ ∧
      Holds (past ++ (admitted request given).toList) r' ∧
      ∀ name, (past ++ (admitted request given).toList).lookup name =
        (past ++ request.registration?.toList).lookup name := by
  cases request with
  | register name make =>
    by_cases known : name ∈ r.names
    · refine ⟨_, _, answer_register_of_mem known make, holds.append_nil, fun other => ?_⟩
      exact (congrArg _ (List.append_nil past)).trans (holds.lookup_again known other)
    · exact ⟨_, _, answer_register_of_notMem known, holds.insert known make, fun _ => rfl⟩
  | create name =>
    cases bound : r.constructors.get? name with
    | some make => exact ⟨_, _, answer_create_of_some bound, holds.append_nil, fun _ => rfl⟩
    | none => exact ⟨_, _, answer_create_of_none bound, holds.append_nil, fun _ => rfl⟩

theorem asked_cons (request : Request) (requests : List Request) :
    asked (request :: requests) = request.registration?.toList ++ asked requests := by
  cases request <;> rfl

/-- What a run comes to: of all the registrations asked for, those went through that are found first. -/
theorem exists_run (holds : Holds past r) (requests : List Request) :
    ∃ answers r', r.run requests = ⟨(answers, r'), recordsOf (granted requests answers)⟩ ∧
      answers.length = requests.length ∧ Holds (past ++ granted requests answers) r' ∧
      ∀ name, (past ++ granted requests answers).lookup name = (past ++ asked requests).lookup name := by
  induction requests generalizing past r with
  | nil => exact ⟨[], r, rfl, rfl, holds.append_nil, fun _ => rfl⟩
  | cons request requests ih =>
    obtain ⟨given, r₁, first, holds₁, found₁⟩ := exists_answer holds request
    obtain ⟨answers, r₂, rest, length, holds₂, found₂⟩ := ih holds₁
    refine ⟨given :: answers, r₂, ?_, ?_, ?_, fun name => ?_⟩
    · rw [run_cons first rest, granted, recordsOf, recordsOf, recordsOf, List.map_append]
    · rw [List.length_cons, List.length_cons, length]
    · rwa [granted, ← List.append_assoc]
    · rw [granted, asked_cons, ← List.append_assoc, ← List.append_assoc, found₂, List.lookup_append,
        found₁, ← List.lookup_append]

end

/-- The registries that a run can start from. -/
inductive Start where
  | empty
  | builtin

def Start.registry : Start → Registry
  | .empty => .empty
  | .builtin => .builtin

/-- The constructors that are there from the start, without a record. -/
def Start.given : Start → List (String × Profile.Constructor)
  | .empty => []
  | .builtin => [(EndDx4.name, EndDx4.make)]

theorem Start.holds (start : Start) : Holds start.given start.registry := by
  cases start with
  | empty => exact ⟨fun _ => rfl, List.nodup_nil⟩
  | builtin => exact ⟨fun _ => rfl, List.pairwise_singleton _ _⟩

theorem sorted_names (r : Registry) : r.names.Pairwise fun a b => Text.octets a < Text.octets b :=
  List.pairwise_map.2 (r.constructors.sorted.imp Text.octets_lt_iff.2)

/-- After any run a registry knows what it began with and the registrations that went through, the first ones
of their names. These decide the answer to the next request, and they are all that there are records of. A
request that is refused, and one for a profile, leave the registry as it is. -/
theorem first_registration_holds (start : Start) (requests : List Request) :
    ∃ answers r records past, start.registry.run requests = ⟨(answers, r), records⟩ ∧
      answers.length = requests.length ∧ past = start.given ++ granted requests answers ∧
      (past.map (·.1)).Nodup ∧ (∀ name, past.lookup name = (start.given ++ asked requests).lookup name) ∧
      records = recordsOf (granted requests answers) ∧
      records.map Record.render =
        ((granted requests answers).map fun entry => s!"DEBUG registered profile `{entry.1}`") ∧
      r.names.Pairwise (fun a b => Text.octets a < Text.octets b) ∧
      (∀ name, name ∈ r.names ↔ name ∈ past.map (·.1)) ∧
      (∀ name make, name ∉ r.names → ∃ r', start.registry.run (requests ++ [.register name make]) =
        ⟨(answers ++ [.registered], r'), records ++ [.profileRegistered name]⟩) ∧
      (∀ name make, name ∈ r.names → start.registry.run (requests ++ [.register name make]) =
        ⟨(answers ++ [.refused (.duplicate name)], r), records⟩) ∧
      (∀ name make, past.lookup name = some make → start.registry.run (requests ++ [.create name]) =
        ⟨(answers ++ [.created (make ())], r), records⟩) ∧
      (∀ name, name ∉ r.names → start.registry.run (requests ++ [.create name]) =
        ⟨(answers ++ [.refused (.unknown name)], r), records⟩) := by
  obtain ⟨answers, r, done, length, holds, found⟩ := exists_run start.holds requests
  refine ⟨answers, r, _, _, done, length, rfl, holds.distinct, found, rfl, render_recordsOf _, sorted_names r,
    ?_, ?_, ?_, ?_, ?_⟩
  · intro name
    exact holds.mem_names_iff
  · intro name make fresh
    exact ⟨_, run_concat done (answer_register_of_notMem fresh)⟩
  · intro name make known
    have next := run_concat done (answer_register_of_mem known make)
    rwa [List.append_nil] at next
  · intro name make bound
    have next := run_concat done (answer_create_of_some ((holds.bound name).trans bound))
    rwa [List.append_nil] at next
  · intro name fresh
    have free := (holds.bound name).trans (holds.lookup_of_notMem fresh)
    have next := run_concat done (answer_create_of_none free)
    rwa [List.append_nil] at next

/-- Makes a profile without streams. -/
def silent (name : String) : Profile.Constructor := fun _ => ⟨name, fun _ _ => return .ok []⟩

/-- A second registration of a name, and a request for a name that nobody has registered, between a
registration and the request for its profile. -/
theorem first_registration_sample : ∃ answers r records,
    Start.builtin.registry.run [.register "empty" (silent "first"),
      .register "empty" (silent "second"), .create "nope", .create "empty"] =
        ⟨(answers ++ [.created (silent "first" ())], r), records⟩ ∧
      EndDx4.name ∈ r.names ∧ "nope" ∉ r.names := by
  obtain ⟨answers, r, records, past, _, _, _, _, found, _, _, _, names, _, _, created, _⟩ :=
    first_registration_holds .builtin [.register "empty" (silent "first"),
      .register "empty" (silent "second"), .create "nope"]
  have bound : past.lookup "empty" = some (silent "first") := (found _).trans rfl
  refine ⟨answers, r, records, created _ _ bound, ?_, ?_⟩
  · rw [names, ← isSome_lookup_iff, found]
    rfl
  · rw [names, ← isSome_lookup_iff, found]
    exact Bool.false_ne_true

end Registry
end Srv6Traffic
