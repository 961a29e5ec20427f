import Srv6Traffic.CommandLine.Arguments
import Srv6Traffic.Proofs.Text.Parts

/-! The command lines that are read, as a grammar. An argument that starts with two hyphens is no value of the
argument before it, so a long setting means the same wherever it stands. -/
namespace Srv6Traffic.CommandLine
variable {i j : Invocation} {setting : Setting} {argument value : String} {arguments rest : List String}

theorem Invocation.once_eq_some_iff {α : Type} {place value filled : Option α} :
    once place value = some filled ↔ place = none ∧ value ≠ none ∧ filled = value := by
  cases place <;> cases value <;> simp [once, eq_comm]

/-- What arguments make of what was given before them, one setting or switch after another. -/
inductive Scans : Invocation → List String → Invocation → Prop
  | done {i : Invocation} : Scans i [] i
  | terminated {i : Invocation} {argument : String} (mark : Argument.ofChars argument.toList = .terminator) :
    Scans i [argument] i
  | attached {i i' j : Invocation} {argument value : String} {setting : Setting} {rest : List String}
    (named : Argument.ofChars argument.toList = .setting setting (some value))
    (assigned : i.assign? setting value = some i') (more : Scans i' rest j) : Scans i (argument :: rest) j
  | separate {i i' j : Invocation} {argument value : String} {setting : Setting} {rest : List String}
    (named : Argument.ofChars argument.toList = .setting setting none) (accepted : setting.accepts value = true)
    (assigned : i.assign? setting value = some i') (more : Scans i' rest j) :
    Scans i (argument :: value :: rest) j
  | switched {i i' j : Invocation} {argument : String} {switch : Switch} {rest : List String}
    (named : Argument.ofChars argument.toList = .switch switch) (turned : i.turnOn? switch = some i')
    (more : Scans i' rest j) : Scans i (argument :: rest) j

theorem scan_eq_ok_iff : scan i arguments = .ok j ↔ Scans i arguments j := by
  constructor
  · intro read
    fun_induction scan i arguments with
    | case1 =>
      obtain rfl := Except.ok.inj read
      exact .done
    | case2 _ _ _ _ _ named _ assigned ih => exact .attached named assigned (ih read)
    | case4 _ _ _ _ _ named _ assigned accepted ih => exact .separate named accepted assigned (ih read)
    | case6 _ _ _ _ named _ turned ih => exact .switched named turned (ih read)
    | case10 _ _ mark =>
      obtain rfl := Except.ok.inj read
      exact .terminated mark
    -- all others end with an error
    | case3 | case5 | case7 | case8 | case9 | case11 | case12 | case13 => contradiction
  · intro scans
    induction scans with
    | done => rfl
    | terminated mark =>
      unfold scan
      simp only [mark]
    | attached named assigned _ ih =>
      unfold scan
      simp only [named, assigned, ih]
    | separate named accepted assigned _ ih =>
      unfold scan
      simp only [named, accepted, assigned, ih]
    | switched named turned _ ih =>
      unfold scan
      simp only [named, turned, ih]

theorem parse_eq_ok_iff : parse arguments = .ok i ↔ Scans {} arguments i := scan_eq_ok_iff

/-- An argument in the long form, or the mark that ends the settings. -/
def Hyphened (argument : String) : Prop := ∃ name, argument.toList = '-' :: '-' :: name

theorem not_accepts_of_hyphened (setting : Setting) (hyphened : Hyphened argument) :
    setting.accepts argument = false := by
  obtain ⟨name, long⟩ := hyphened
  have word : isNumber ('-' :: name) = false := rfl
  unfold Setting.accepts
  rw [long]
  change (setting.takesNegative && isNumber ('-' :: name)) = false
  rw [word, Bool.and_false]

theorem accepts_of_notMem (setting : Setting) (free : '-' ∉ value.toList) : setting.accepts value = true := by
  unfold Setting.accepts
  split
  next shape =>
    rw [shape] at free
    exact absurd List.mem_cons_self free
  next => rfl

/-- A hyphened argument is read as an argument, whatever stands before it. -/
theorem Scans.reach {before : List String} (hyphened : Hyphened argument)
    (scans : Scans i (before ++ argument :: rest) j) : ∃ i', Scans i' (argument :: rest) j := by
  generalize split : before ++ argument :: rest = arguments at scans
  induction scans generalizing before with
  | done => simp at split
  | terminated mark =>
    cases before with
    | nil =>
      cases split
      exact ⟨_, .terminated mark⟩
    | cons first before => simp at split
  | attached named assigned more ih =>
    cases before with
    | nil =>
      cases split
      exact ⟨_, .attached named assigned more⟩
    | cons first before => exact ih (List.cons.inj split).2
  | separate named accepted assigned more ih =>
    cases before with
    | nil =>
      cases split
      exact ⟨_, .separate named accepted assigned more⟩
    | cons first before =>
      cases before with
      | nil =>
        -- here it would be the value of the argument before it
        obtain ⟨rfl, -⟩ := List.cons.inj (List.cons.inj split).2
        rw [not_accepts_of_hyphened _ hyphened] at accepted
        contradiction
      | cons second before => exact ih (List.cons.inj (List.cons.inj split).2).2
  | switched named turned more ih =>
    cases before with
    | nil =>
      cases split
      exact ⟨_, .switched named turned more⟩
    | cons first before => exact ih (List.cons.inj split).2

namespace Argument
variable {name : List Char}

theorem ofChars_hyphened {long : List Char} (nonempty : long ≠ []) : ofChars ('-' :: '-' :: long) =
    match Text.cut? '=' long with
    | some (name, value) => ofLong (.ofList name) (some (.ofList value))
    | none => ofLong (.ofList long) none := by
  cases long with
  | nil => contradiction
  | cons c rest => rfl

theorem ofChars_long (nonempty : name ≠ []) (free : '=' ∉ name) :
    ofChars ('-' :: '-' :: name) = ofLong (.ofList name) none := by
  rw [ofChars_hyphened nonempty, Text.cut?_eq_none_iff.2 free]

theorem ofChars_attached (free : '=' ∉ name) (value : List Char) :
    ofChars ('-' :: '-' :: (name ++ '=' :: value)) = ofLong (.ofList name) (some (.ofList value)) := by
  rw [ofChars_hyphened (by simp), Text.cut?_eq_some_iff.2 ⟨rfl, free⟩]

theorem ofLong_setting {name : String} (known : Setting.ofLong? name = some setting) (value : Option String) :
    ofLong name value = .setting setting value := by
  unfold ofLong
  rw [known]

end Argument

/-- A long setting and its value somewhere among arguments, as two of them or as one. -/
def Gives (arguments : List String) (name value : String) : Prop :=
  ["--" ++ name, value] <:+: arguments ∨ "--" ++ name ++ "=" ++ value ∈ arguments

/-- A setting that is given is assigned at some point, and the rest is read after that. -/
theorem Scans.assigns {name : String} (known : Setting.ofLong? name = some setting) (nonempty : name.toList ≠ [])
    (free : '=' ∉ name.toList) (gives : Gives arguments name value) (scans : Scans i arguments j) :
    ∃ before after rest, Invocation.assign? before setting value = some after ∧ Scans after rest j := by
  obtain ⟨front, rest, split⟩ | there := gives
  · have long : ("--" ++ name).toList = '-' :: '-' :: name.toList := by simp
    have argument : Argument.ofChars ("--" ++ name).toList = .setting setting none := by
      rw [long, Argument.ofChars_long nonempty free, String.ofList_toList, Argument.ofLong_setting known]
    rw [List.append_assoc] at split
    obtain ⟨before, reached⟩ := (split ▸ scans).reach ⟨_, long⟩
    cases reached with
    | attached named => cases argument.symm.trans named
    | switched named => cases argument.symm.trans named
    | separate named _ assigned more =>
      cases argument.symm.trans named
      exact ⟨before, _, rest, assigned, more⟩
  · have long : ("--" ++ name ++ "=" ++ value).toList = '-' :: '-' :: (name.toList ++ '=' :: value.toList) := by simp
    have argument : Argument.ofChars ("--" ++ name ++ "=" ++ value).toList = .setting setting (some value) := by
      rw [long, Argument.ofChars_attached free, String.ofList_toList, String.ofList_toList,
        Argument.ofLong_setting known]
    obtain ⟨front, rest, split⟩ := List.append_of_mem there
    obtain ⟨before, reached⟩ := (split ▸ scans).reach ⟨_, long⟩
    cases reached with
    | terminated mark => cases argument.symm.trans mark
    | separate named => cases argument.symm.trans named
    | switched named => cases argument.symm.trans named
    | attached named assigned more =>
      cases argument.symm.trans named
      exact ⟨before, _, rest, assigned, more⟩

end Srv6Traffic.CommandLine
