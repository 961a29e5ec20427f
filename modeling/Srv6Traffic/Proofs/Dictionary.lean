import Srv6Traffic.Dictionary

/-! Laws of dictionaries. An insertion binds its key and nothing else, and two dictionaries that bind the same
values are equal: the order of the entries leaves no other difference. -/
namespace Srv6Traffic.Dictionary
variable {α : Type}

@[simp] theorem get?_empty (key : String) : (empty : Dictionary α).get? key = none := rfl

theorem lookup_cons (key : String) (entry : String × α) (rest : List (String × α)) :
    (entry :: rest).lookup key = if key = entry.1 then some entry.2 else rest.lookup key := by
  by_cases same : key = entry.1
  · rw [List.lookup_cons, if_pos same, beq_iff_eq.2 same]
  · rw [List.lookup_cons, if_neg same, beq_eq_false_iff_ne.2 same]

theorem lookup_place (key other : String) (value : α) (entries : List (String × α)) :
    (place key value entries).lookup other = if other = key then some value else entries.lookup other := by
  induction entries with
  | nil => exact lookup_cons other (key, value) []
  | cons first rest ih =>
    rw [place]
    split
    next => exact lookup_cons other (key, value) (first :: rest)
    next =>
      split
      next same =>
        rw [lookup_cons, lookup_cons, same]
        split <;> rfl
      next apart =>
        rw [lookup_cons, lookup_cons, ih]
        split
        next found => rw [if_neg (fun same => apart (same.symm.trans found))]
        next => rfl

/-- An insertion binds its key and leaves the others as they are. -/
theorem get?_insert (d : Dictionary α) (key other : String) (value : α) :
    (d.insert key value).get? other = if other = key then some value else d.get? other :=
  lookup_place key other value d.entries

theorem lookup_of_lt {key : String} {entries : List (String × α)} (below : ∀ entry ∈ entries, key < entry.1) :
    entries.lookup key = none := by
  refine List.lookup_eq_none_iff.2 fun entry there => bne_iff_ne.2 fun same => ?_
  have less := below entry there
  rw [same] at less
  exact String.lt_irrefl _ less

theorem mem_iff_lookup_eq {entries : List (String × α)} (sorted : entries.Pairwise (·.1 < ·.1))
    {key : String} {value : α} : (key, value) ∈ entries ↔ entries.lookup key = some value := by
  induction entries with
  | nil => simp
  | cons first rest ih =>
    obtain ⟨below, tail⟩ := List.pairwise_cons.1 sorted
    obtain ⟨least, bound⟩ := first
    rw [List.mem_cons, lookup_cons, ih tail, Prod.mk.injEq]
    by_cases here : key = least
    · have apart : rest.lookup key = none := lookup_of_lt (here ▸ below)
      simp [← here, apart, eq_comm]
    · simp [here]

/-- The least key that is bound on one side is no greater than that on the other. -/
theorem not_lt_of_lookup_eq {these those : List (String × α)} {this that : String × α}
    (sorted : (that :: those).Pairwise (·.1 < ·.1))
    (same : (this :: these).lookup this.1 = (that :: those).lookup this.1) : ¬this.1 < that.1 := by
  intro less
  have below : ∀ entry ∈ that :: those, this.1 < entry.1 := by
    intro entry there
    cases there with
    | head => exact less
    | tail _ later => exact String.lt_trans less ((List.pairwise_cons.1 sorted).1 entry later)
  rw [lookup_of_lt below, lookup_cons, if_pos rfl] at same
  contradiction

theorem eq_of_lookup_eq {these those : List (String × α)} (sortedThese : these.Pairwise (·.1 < ·.1))
    (sortedThose : those.Pairwise (·.1 < ·.1)) (same : ∀ key, these.lookup key = those.lookup key) :
    these = those := by
  induction these generalizing those with
  | nil =>
    cases those with
    | nil => rfl
    | cons that others =>
      have bound := same that.1
      rw [lookup_cons, if_pos rfl] at bound
      contradiction
  | cons this rest ih =>
    cases those with
    | nil =>
      have bound := same this.1
      rw [lookup_cons, if_pos rfl] at bound
      contradiction
    | cons that others =>
      have notLess := not_lt_of_lookup_eq sortedThose (same this.1)
      have notMore := not_lt_of_lookup_eq sortedThese (same that.1).symm
      have key : this.1 = that.1 := String.le_antisymm (String.not_lt.1 notMore) (String.not_lt.1 notLess)
      have value := same this.1
      rw [lookup_cons, lookup_cons, if_pos rfl, if_pos key] at value
      obtain rfl : this = that := Prod.ext key (Option.some.inj value)
      obtain ⟨belowRest, sortedRest⟩ := List.pairwise_cons.1 sortedThese
      obtain ⟨belowOthers, sortedOthers⟩ := List.pairwise_cons.1 sortedThose
      have tails : ∀ other, rest.lookup other = others.lookup other := by
        intro other
        by_cases first : other = this.1
        · rw [first, lookup_of_lt belowRest, lookup_of_lt belowOthers]
        · have whole := same other
          rw [lookup_cons, lookup_cons, if_neg first, if_neg first] at whole
          exact whole
      rw [ih sortedRest sortedOthers tails]

/-- The entries are the bindings. -/
theorem mem_entries_iff(d : Dictionary α) {key : String} {value : α} :
    (key, value) ∈ d.entries ↔ d.get? key = some value :=
  mem_iff_lookup_eq d.sorted

/-- A dictionary is what it binds. -/
theorem eq_of_get?_eq {these those : Dictionary α} (same : ∀ key, these.get? key = those.get? key) :
    these = those := by
  obtain ⟨here, sortedHere⟩ := these
  obtain ⟨there, sortedThere⟩ := those
  obtain rfl : here = there := eq_of_lookup_eq sortedHere sortedThere same
  rfl

end Srv6Traffic.Dictionary
