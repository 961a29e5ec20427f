import Mathlib.Data.List.Forall2
import Srv6Traffic.Proofs.Dictionary
import Srv6Traffic.Proofs.Text.Parts
import Srv6Traffic.Stream.Options

/-! The meaning of the text of options. A text is a list of entries, each of them a binding, and every option
has the value of the last binding that concerns it. Reading fails at the first entry that is none or whose number
is none. -/
namespace Srv6Traffic

theorem Direction.ofText?_eq_some_iff {value : String} {direction : Direction} :
    ofText? value = some direction ↔
      (value = "0" ∧ direction = .clientToServer) ∨ (value = "1" ∧ direction = .serverToClient) := by
  unfold ofText?
  split
  next zero => simp [zero, eq_comm]
  next notZero =>
    split
    next one => simp [one, eq_comm]
    next notOne => simp [notZero, notOne]

namespace StreamOptions
variable {entry : List Char} {found : List (List Char)} {o : StreamOptions} {e : ParseError}

/-- A key and the value that it is given. -/
abbrev Binding := String × String

variable {b : Binding} {bindings : List Binding} {kind : Binding → Bool} {key value : String}

/-- The parts of a text between its commas, trimmed, without those that are blank. -/
def Entries (text : List Char) (found : List (List Char)) : Prop :=
  ∃ parts cores, Text.Separates ',' text parts ∧ List.Forall₂ Text.Trims parts cores ∧
    found = cores.filter (· ≠ [])

theorem forall₂_trims_iff {parts cores : List (List Char)} :
    List.Forall₂ Text.Trims parts cores ↔ parts.map Text.trim = cores := by
  constructor
  · intro trims
    induction trims with
    | nil => rfl
    | cons trims _ ih => rw [List.map_cons, Text.trims_iff.1 trims, ih]
  · rintro rfl
    rw [List.forall₂_map_right_iff]
    exact List.forall₂_same.2 fun part _ => Text.trims_trim part

theorem entries_iff {text : List Char} : Entries text found ↔ found = entries text := by
  constructor
  · rintro ⟨parts, cores, separates, trims, rfl⟩
    rw [entries, Text.separates_iff.1 separates, forall₂_trims_iff.1 trims]
  · rintro rfl
    exact ⟨_, _, Text.separates_iff.2 rfl, forall₂_trims_iff.2 rfl, rfl⟩

/-- The two sides of an entry about its first equals sign, trimmed. -/
def Binds (entry : List Char) (b : Binding) : Prop :=
  ∃ before after, entry = before ++ '=' :: after ∧ '=' ∉ before ∧
    Text.Trims before b.1.toList ∧ Text.Trims after b.2.toList

theorem setEntry_of_binds (o : StreamOptions) (binds : Binds entry b) : o.setEntry entry = o.set b.1 b.2 := by
  obtain ⟨before, after, same, first, left, right⟩ := binds
  rw [setEntry, Text.cut?_eq_some_iff.2 ⟨same, first⟩]
  change o.set (.ofList (Text.trim before)) (.ofList (Text.trim after)) = o.set b.1 b.2
  rw [left.trim_eq, right.trim_eq, String.ofList_toList, String.ofList_toList]

theorem setEntry_of_notMem (o : StreamOptions) (free : '=' ∉ entry) :
    o.setEntry entry = .error (.malformed (.ofList entry)) := by
  rw [setEntry, Text.cut?_eq_none_iff.2 free]

theorem exists_binds (there : '=' ∈ entry) : ∃ b, Binds entry b := by
  obtain ⟨before, after, same, first⟩ := List.eq_append_cons_of_mem there
  refine ⟨(.ofList (Text.trim before), .ofList (Text.trim after)), before, after, same, first, ?_, ?_⟩
  · rw [String.toList_ofList]
    exact Text.trims_trim before
  · rw [String.toList_ofList]
    exact Text.trims_trim after

theorem Binds.unique {b' : Binding} (binds : Binds entry b) (binds' : Binds entry b') : b = b' := by
  obtain ⟨before, after, same, first, left, right⟩ := binds
  obtain ⟨before', after', same', first', left', right'⟩ := binds'
  have cut := Text.cut?_eq_some_iff.2 ⟨same, first⟩
  rw [Text.cut?_eq_some_iff.2 ⟨same', first'⟩] at cut
  obtain ⟨rfl, rfl⟩ := Prod.mk.inj (Option.some.inj cut)
  refine Prod.ext ?_ ?_
  · rw [← String.toList_inj, ← left.trim_eq, ← left'.trim_eq]
  · rw [← String.toList_inj, ← right.trim_eq, ← right'.trim_eq]

/-- The keys whose values are numbers. -/
def Numeric (key : String) : Prop := key = "packet_len" ∨ key = "stream_count"

instance : DecidablePred Numeric := fun key =>
  inferInstanceAs (Decidable (key = "packet_len" ∨ key = "stream_count"))

/-- A literal of a number of 64 bits with a sign. -/
def IsNumber (value : String) : Prop := ∃ n : Int64, Text.Denotes value.toList n.toInt

/-- An entry that binds a key, a numeric one to a number. -/
def Sound (entry : List Char) : Prop :=
  '=' ∈ entry ∧ ∀ b, Binds entry b → Numeric b.1 → IsNumber b.2

/-- What is wrong with an entry that is not sound. -/
inductive Faulty : List Char → ParseError → Prop
  | malformed {entry : List Char} (free : '=' ∉ entry) : Faulty entry (.malformed (.ofList entry))
  | badValue {entry : List Char} {key value : String} (binds : Binds entry (key, value))
      (numeric : Numeric key) (noNumber : ¬IsNumber value) : Faulty entry (.badValue key value)

theorem sound_or_faulty (entry : List Char) : Sound entry ∨ ∃ e, Faulty entry e := by
  by_cases there : '=' ∈ entry
  · obtain ⟨b, binds⟩ := exists_binds there
    by_cases good : Numeric b.1 → IsNumber b.2
    · exact .inl ⟨there, fun b' binds' => binds.unique binds' ▸ good⟩
    · rw [Classical.not_imp] at good
      exact .inr ⟨_, .badValue binds good.1 good.2⟩
  · exact .inr ⟨_, .malformed there⟩

theorem integer_of_denotes {n : Int64} (denotes : Text.Denotes value.toList n.toInt) :
    integer key value = .ok n := by
  rw [integer, Text.int64?_eq_some_iff.2 denotes]

theorem integer_of_not_isNumber (noNumber : ¬IsNumber value) :
    integer key value = .error (.badValue key value) := by
  have none : Text.int64? value.toList = none :=
    Option.eq_none_iff_forall_ne_some.2 fun n read => noNumber ⟨n, Text.int64?_eq_some_iff.1 read⟩
  rw [integer, none]

theorem set_of_not_isNumber (o : StreamOptions) (numeric : Numeric key) (noNumber : ¬IsNumber value) :
    o.set key value = .error (.badValue key value) := by
  obtain rfl | rfl := numeric
  · rw [set, if_neg (by decide), if_pos rfl, integer_of_not_isNumber noNumber]
    rfl
  · rw [set, if_neg (by decide), if_neg (by decide), if_pos rfl, integer_of_not_isNumber noNumber]
    rfl

theorem setEntry_of_faulty (o : StreamOptions) (faulty : Faulty entry e) : o.setEntry entry = .error e := by
  cases faulty with
  | malformed free => exact setEntry_of_notMem o free
  | badValue binds numeric noNumber =>
    rw [setEntry_of_binds o binds]
    exact set_of_not_isNumber o numeric noNumber

/-- The value of the last binding of a kind. -/
def last (kind : Binding → Bool) (bindings : List Binding) : Option String :=
  (bindings.reverse.find? kind).map (·.2)

theorem last_concat_of (same : kind b = true) : last kind (bindings ++ [b]) = some b.2 := by
  rw [last, List.reverse_concat, List.find?_cons_of_pos same]
  rfl

theorem last_concat_of_not (other : kind b = false) : last kind (bindings ++ [b]) = last kind bindings := by
  rw [last, List.reverse_concat, List.find?_cons_of_neg (Bool.not_eq_true _ ▸ other)]
  rfl

def isNamed (key : String) (b : Binding) : Bool := b.1 = key

/-- A binding that sets the direction. -/
def isDirection (b : Binding) : Bool := b.1 = "direction" ∧ (b.2 = "0" ∨ b.2 = "1")

/-- A binding that sets no option. A direction that is none is one of them. -/
def isExtra (b : Binding) : Bool := ¬Numeric b.1 ∧ ¬isDirection b

/-- What the last binding of a number says, or the number that stands without one. -/
def Tells (found : Option String) (default n : Int) : Prop :=
  match found with
  | some value => Text.Denotes value.toList n
  | none => n = default

/-- Every option has the value of the last binding that sets it, and the bindings that set none are kept, the
last for each key. -/
structure Reads (bindings : List Binding) (o : StreamOptions) : Prop where
  packetLength : Tells (last (isNamed "packet_len") bindings) 64 o.packetLength.toInt
  streamCount : ∃ n, Tells (last (isNamed "stream_count") bindings) 1 n ∧ (o.streamCount : Int) = max 0 n
  direction : o.direction =
    if last isDirection bindings = some "1" then .serverToClient else .clientToServer
  extra : ∀ key, o.extra.get? key = last (fun b => isNamed key b && isExtra b) bindings

theorem reads_default : Reads [] {} where
  packetLength := rfl
  streamCount := ⟨1, rfl, rfl⟩
  direction := rfl
  extra := fun _ => rfl

theorem Tells.unique {shown : Option String} {default n m : Int} (told : Tells shown default n)
    (told' : Tells shown default m) : n = m := by
  cases shown with
  | none => exact Eq.trans told (Eq.symm told')
  | some value =>
    have read := Text.integer?_eq_some_iff.2 told
    rw [Text.integer?_eq_some_iff.2 told'] at read
    exact (Option.some.inj read).symm

/-- Bindings leave one value for the options. -/
theorem Reads.unique {o' : StreamOptions} (reads : Reads bindings o) (reads' : Reads bindings o') : o = o' := by
  obtain ⟨direction, packetLength, streamCount, extra⟩ := o
  obtain ⟨direction', packetLength', streamCount', extra'⟩ := o'
  obtain ⟨n, told, count⟩ := reads.streamCount
  obtain ⟨m, told', count'⟩ := reads'.streamCount
  have lengths : packetLength = packetLength' :=
    Int64.toInt_inj.1 (reads.packetLength.unique reads'.packetLength)
  have counts : streamCount = streamCount' := by
    rw [told.unique told'] at count
    exact Int.ofNat_inj.1 (count.trans count'.symm)
  have directions : direction = direction' := reads.direction.trans reads'.direction.symm
  have extras : extra = extra' :=
    Dictionary.eq_of_get?_eq fun key => (reads.extra key).trans (reads'.extra key).symm
  rw [lengths, counts, directions, extras]

theorem not_extra_of_numeric (numeric : Numeric key) : isExtra (key, value) = false :=
  decide_eq_false fun extra => extra.1 numeric

theorem not_extra_of_direction (sets : isDirection b = true) : isExtra b = false :=
  decide_eq_false fun extra => extra.2 sets

theorem Reads.extra_concat (reads : Reads bindings o) (taken : isExtra b = false) (key : String) :
    o.extra.get? key = last (fun b => isNamed key b && isExtra b) (bindings ++ [b]) := by
  have other : (isNamed key b && isExtra b) = false := by rw [taken, Bool.and_false]
  rw [last_concat_of_not other]
  exact reads.extra key

theorem Reads.packetLength_concat {n : Int64} (reads : Reads bindings o)
    (denotes : Text.Denotes value.toList n.toInt) :
    Reads (bindings ++ [("packet_len", value)]) { o with packetLength := n } where
  packetLength := by
    rw [last_concat_of (by rfl)]
    exact denotes
  streamCount := by
    rw [last_concat_of_not (by rfl)]
    exact reads.streamCount
  direction := by
    rw [last_concat_of_not (by rfl)]
    exact reads.direction
  extra := reads.extra_concat (not_extra_of_numeric (.inl rfl))

theorem Reads.streamCount_concat {n : Int64} (reads : Reads bindings o)
    (denotes : Text.Denotes value.toList n.toInt) :
    Reads (bindings ++ [("stream_count", value)]) { o with streamCount := n.toInt.toNat } where
  packetLength := by
    rw [last_concat_of_not (by rfl)]
    exact reads.packetLength
  streamCount := by
    rw [last_concat_of (by rfl)]
    exact ⟨n.toInt, denotes, by rw [Int.ofNat_toNat, max_comm]⟩
  direction := by
    rw [last_concat_of_not (by rfl)]
    exact reads.direction
  extra := reads.extra_concat (not_extra_of_numeric (.inr rfl))

theorem Reads.direction_concat {direction : Direction} (reads : Reads bindings o)
    (known : Direction.ofText? value = some direction) :
    Reads (bindings ++ [("direction", value)]) { o with direction } := by
  have cases := Direction.ofText?_eq_some_iff.1 known
  have sets : isDirection ("direction", value) = true :=
    decide_eq_true ⟨rfl, cases.imp And.left And.left⟩
  refine ⟨?_, ?_, ?_, reads.extra_concat (not_extra_of_direction sets)⟩
  · rw [last_concat_of_not (by rfl)]
    exact reads.packetLength
  · rw [last_concat_of_not (by rfl)]
    exact reads.streamCount
  · rw [last_concat_of sets]
    obtain ⟨rfl, rfl⟩ | ⟨rfl, rfl⟩ := cases <;> rfl

theorem Reads.keep_concat (reads : Reads bindings o) (extra : isExtra (key, value) = true) :
    Reads (bindings ++ [(key, value)]) (o.keep key value) := by
  obtain ⟨notNumeric, notDirection⟩ := of_decide_eq_true extra
  refine ⟨?_, ?_, ?_, fun other => ?_⟩
  · rw [last_concat_of_not (decide_eq_false fun same => notNumeric (.inl same))]
    exact reads.packetLength
  · rw [last_concat_of_not (decide_eq_false fun same => notNumeric (.inr same))]
    exact reads.streamCount
  · rw [last_concat_of_not (Bool.not_eq_true _ ▸ notDirection)]
    exact reads.direction
  · change (o.extra.insert key value).get? other = _
    rw [Dictionary.get?_insert]
    by_cases same : other = key
    · subst same
      have named : isNamed other (other, value) = true := decide_eq_true rfl
      rw [if_pos rfl, last_concat_of (by rw [named, extra, Bool.and_true])]
    · have named : isNamed other (key, value) = false := decide_eq_false (Ne.symm same)
      rw [if_neg same, last_concat_of_not (by rw [named, Bool.false_and])]
      exact reads.extra other

theorem set_packetLength {n : Int64} (o : StreamOptions) (denotes : Text.Denotes value.toList n.toInt) :
    o.set "packet_len" value = .ok { o with packetLength := n } := by
  rw [set, if_neg (by decide), if_pos rfl, integer_of_denotes denotes]
  rfl

theorem set_streamCount {n : Int64} (o : StreamOptions) (denotes : Text.Denotes value.toList n.toInt) :
    o.set "stream_count" value = .ok { o with streamCount := n.toInt.toNat } := by
  rw [set, if_neg (by decide), if_neg (by decide), if_pos rfl, integer_of_denotes denotes, ← Signed.getD_unsigned?]
  rfl

theorem set_direction {direction : Direction} (o : StreamOptions)
    (known : Direction.ofText? value = some direction) :
    o.set "direction" value = .ok { o with direction } := by
  rw [set, if_pos rfl, known]

theorem set_unknownDirection (o : StreamOptions) (unknown : Direction.ofText? value = none) :
    o.set "direction" value = .ok (o.keep "direction" value) := by
  rw [set, if_pos rfl, unknown]

theorem set_extra (o : StreamOptions) (extra : isExtra (key, value) = true) :
    o.set key value = .ok (o.keep key value) := by
  obtain ⟨notNumeric, notDirection⟩ := of_decide_eq_true extra
  by_cases same : key = "direction"
  · subst same
    refine set_unknownDirection o (Option.eq_none_iff_forall_ne_some.2 fun direction known => notDirection ?_)
    exact decide_eq_true ⟨rfl, (Direction.ofText?_eq_some_iff.1 known).imp And.left And.left⟩
  · rw [set, if_neg same, if_neg (fun same => notNumeric (.inl same)),
      if_neg (fun same => notNumeric (.inr same))]

/-- One more binding is read as the last one. -/
theorem Reads.set (reads : Reads bindings o) (good : Numeric key → IsNumber value) :
    ∃ o', o.set key value = .ok o' ∧ Reads (bindings ++ [(key, value)]) o' := by
  by_cases numeric : Numeric key
  · obtain ⟨n, denotes⟩ := good numeric
    obtain rfl | rfl := numeric
    · exact ⟨_, set_packetLength o denotes, reads.packetLength_concat denotes⟩
    · exact ⟨_, set_streamCount o denotes, reads.streamCount_concat denotes⟩
  · by_cases sets : isDirection (key, value) = true
    · obtain ⟨same, known⟩ := of_decide_eq_true sets
      obtain rfl : key = "direction" := same
      obtain ⟨direction, known⟩ : ∃ direction, Direction.ofText? value = some direction := by
        obtain rfl | rfl : value = "0" ∨ value = "1" := known
        · exact ⟨_, rfl⟩
        · exact ⟨_, rfl⟩
      exact ⟨_, set_direction o known, reads.direction_concat known⟩
    · have extra : isExtra (key, value) = true := decide_eq_true ⟨numeric, sets⟩
      exact ⟨_, set_extra o extra, reads.keep_concat extra⟩

theorem Reads.setEntry (reads : Reads bindings o) (sound : Sound entry) :
    ∃ b o', Binds entry b ∧ o.setEntry entry = .ok o' ∧ Reads (bindings ++ [b]) o' := by
  obtain ⟨there, good⟩ := sound
  obtain ⟨b, binds⟩ := exists_binds there
  obtain ⟨o', done, reads'⟩ := reads.set (good b binds)
  exact ⟨b, o', binds, (setEntry_of_binds o binds).trans done, reads'⟩

/-- Sound entries are read to the end, whatever has been read before. -/
theorem Reads.setEntries (reads : Reads bindings o) (sound : ∀ entry ∈ found, Sound entry) :
    ∃ more o', List.Forall₂ Binds found more ∧ found.foldlM StreamOptions.setEntry o = .ok o' ∧
      Reads (bindings ++ more) o' := by
  -- what has been read so far is general, so that a binding can move from the rest to it
  induction found generalizing bindings o with
  | nil =>
    refine ⟨[], o, .nil, rfl, ?_⟩
    rw [List.append_nil]
    exact reads
  | cons first rest ih =>
    obtain ⟨b, o₁, binds, done, reads₁⟩ := reads.setEntry (sound first List.mem_cons_self)
    obtain ⟨more, o₂, bindRest, run, reads₂⟩ :=
      ih reads₁ fun entry there => sound entry (List.mem_cons_of_mem _ there)
    refine ⟨b :: more, o₂, .cons binds bindRest, ?_, ?_⟩
    · rw [List.foldlM_cons, done]
      exact run
    · rw [List.append_cons]
      exact reads₂

/-- All entries are sound, or one of them is the first that is not. -/
theorem all_sound_or_first (found : List (List Char)) : (∀ entry ∈ found, Sound entry) ∨
    ∃ before entry after e, found = before ++ entry :: after ∧ (∀ x ∈ before, Sound x) ∧ Faulty entry e := by
  induction found with
  | nil => exact .inl fun entry there => absurd there List.not_mem_nil
  | cons first rest ih =>
    obtain sound | ⟨e, faulty⟩ := sound_or_faulty first
    · obtain all | ⟨before, entry, after, e, rfl, sounds, faulty⟩ := ih
      · exact .inl (List.forall_mem_cons.2 ⟨sound, all⟩)
      · exact .inr ⟨first :: before, entry, after, e, rfl, List.forall_mem_cons.2 ⟨sound, sounds⟩, faulty⟩
    · exact .inr ⟨[], first, rest, e, rfl, fun x there => absurd there List.not_mem_nil, faulty⟩

theorem run_of_sound (sound : ∀ entry ∈ found, Sound entry) :
    ∃ bindings o, List.Forall₂ Binds found bindings ∧ found.foldlM StreamOptions.setEntry {} = .ok o ∧
      Reads bindings o :=
  reads_default.setEntries sound

theorem run_of_faulty {before after : List (List Char)} (sound : ∀ x ∈ before, Sound x) (faulty : Faulty entry e) :
    (before ++ entry :: after).foldlM StreamOptions.setEntry {} = .error e := by
  obtain ⟨_, o, _, run, _⟩ := run_of_sound sound
  rw [List.foldlM_append, run]
  change (entry :: after).foldlM StreamOptions.setEntry o = .error e
  rw [List.foldlM_cons, setEntry_of_faulty o faulty]
  rfl

theorem run_eq_ok_iff : found.foldlM StreamOptions.setEntry {} = .ok o ↔ (∀ entry ∈ found, Sound entry) ∧
    ∃ bindings, List.Forall₂ Binds found bindings ∧ Reads bindings o := by
  constructor
  · intro done
    obtain sound | ⟨before, entry, after, e, rfl, sound, faulty⟩ := all_sound_or_first found
    · obtain ⟨bindings, o', bind, run, reads⟩ := run_of_sound sound
      rw [run] at done
      cases done
      exact ⟨sound, bindings, bind, reads⟩
    · rw [run_of_faulty sound faulty] at done
      contradiction
  · intro ⟨sound, bindings, bind, reads⟩
    obtain ⟨bindings', o', bind', run, reads'⟩ := run_of_sound sound
    have once : Relator.RightUnique Binds := fun _ _ _ binds binds' => binds.unique binds'
    obtain rfl := once.forall₂ bind bind'
    obtain rfl := reads.unique reads'
    exact run

theorem run_eq_error_iff : found.foldlM StreamOptions.setEntry {} = .error e ↔
    ∃ before entry after, found = before ++ entry :: after ∧ (∀ x ∈ before, Sound x) ∧ Faulty entry e := by
  constructor
  · intro failed
    obtain sound | ⟨before, entry, after, e', rfl, sound, faulty⟩ := all_sound_or_first found
    · obtain ⟨_, o, _, run, _⟩ := run_of_sound sound
      rw [run] at failed
      contradiction
    · rw [run_of_faulty sound faulty] at failed
      cases failed
      exact ⟨before, entry, after, rfl, sound, faulty⟩
  · rintro ⟨before, entry, after, rfl, sound, faulty⟩
    exact run_of_faulty sound faulty

/-- What a text of options means. It has one list of entries. It is read when all of them are sound, and the
options are those that their bindings leave; else the error is that of the first entry that is not sound. -/
theorem parse_means (text : String) : ∃ found, (∀ list, Entries text.toList list ↔ list = found) ∧
    ((∃ o, parse text = .ok o) ↔ ∀ entry ∈ found, Sound entry) ∧
    (∀ o, parse text = .ok o ↔ (∀ entry ∈ found, Sound entry) ∧
      ∃ bindings, List.Forall₂ Binds found bindings ∧ Reads bindings o) ∧
    (∀ e, parse text = .error e ↔ ∃ before entry after, found = before ++ entry :: after ∧
      (∀ x ∈ before, Sound x) ∧ Faulty entry e) := by
  refine ⟨entries text.toList, fun _ => entries_iff, ⟨?_, ?_⟩, fun _ => run_eq_ok_iff, fun _ => run_eq_error_iff⟩
  · intro ⟨o, done⟩
    exact (run_eq_ok_iff.1 done).1
  · intro sound
    obtain ⟨_, o, _, run, _⟩ := run_of_sound sound
    exact ⟨o, run⟩

example : parse "direction=1, packet_len = +07,,direction=up,\u3000stream_count=-3\u00a0,=a=b,k=v,k= " = .ok
    { direction := .serverToClient, packetLength := 7, streamCount := 0,
      extra := ((Dictionary.empty.insert "" "a=b").insert "direction" "up").insert "k" "" } := by
  decide

end StreamOptions
end Srv6Traffic
