import Mathlib.Logic.Relation
import Srv6Traffic.Proofs.Stream.Options

/-! A text of options part by part, as it stands between the commas. Of the order of the parts only that among
parts with one key counts, and of the blanks about parts, keys and values none. -/
namespace Srv6Traffic.StreamOptions
open Text
variable {part part' key value : List Char} {parts others : List (List Char)} {b : Binding} {o : StreamOptions}

/-- Reads a part of a text: nothing but blanks is passed over. -/
def readPart (o : StreamOptions) (part : List Char) : Except ParseError StreamOptions :=
  if trim part = [] then .ok o else o.setEntry (trim part)

theorem foldlM_entries (parts : List (List Char)) (o : StreamOptions) :
    ((parts.map trim).filter (· ≠ [])).foldlM setEntry o = parts.foldlM readPart o := by
  rw [List.foldlM_filter, List.foldlM_map]
  refine congrArg (fun read => parts.foldlM read o) (funext fun before => funext fun part => ?_)
  by_cases blank : trim part = []
  · rw [readPart, if_pos blank, blank]
    rfl
  · rw [readPart, if_neg blank, if_pos (decide_eq_true blank)]

theorem parse_eq (text : String) : parse text = (Text.pieces ',' text.toList).foldlM readPart {} :=
  foldlM_entries _ _

/-- The text that has these parts, if they have no commas. -/
def joined (parts : List (List Char)) : String := .ofList ([','].intercalate parts)

theorem parse_joined (free : ∀ part ∈ parts, ',' ∉ part) : parse (joined parts) = parts.foldlM readPart {} := by
  rw [parse_eq, joined, String.toList_ofList]
  cases parts with
  | nil => rfl
  | cons first rest => rw [separates_iff.1 ⟨List.cons_ne_nil _ _, free, rfl⟩]

theorem binds_of_trims {k v : List Char} (first : '=' ∉ key) (left : Trims key k) (right : Trims value v) :
    Binds (key ++ '=' :: value) (.ofList k, .ofList v) :=
  ⟨key, value, rfl, first, by rwa [String.toList_ofList], by rwa [String.toList_ofList]⟩

theorem Binds.mem (binds : Binds part b) : '=' ∈ part := by
  obtain ⟨before, after, rfl, _⟩ := binds
  simp

/-- The blanks about a part have no influence on what it binds. -/
theorem binds_trim_iff : Binds (trim part) b ↔ Binds part b := by
  have outwards : ∀ {b}, Binds (trim part) b → Binds part b := by
    rintro b ⟨before, after, same, first, left, right⟩
    obtain ⟨⟨front, back, blankFront, blankBack, whole⟩, _, _⟩ := trims_trim part
    have free : '=' ∉ front ++ before := by
      rw [List.mem_append, not_or]
      exact ⟨blankFront.notMem (by decide), first⟩
    have left' := left.pad blankFront allBlank_nil
    have right' := right.pad allBlank_nil blankBack
    rw [List.append_nil] at left'
    exact ⟨front ++ before, after ++ back, by rw [whole, same]; simp, free, left', right'⟩
  constructor
  · exact outwards
  · -- the core binds something, and outwards that is what the part binds
    intro binds
    have there : '=' ∈ trim part := by
      rw [← (trims_trim part).mem_iff (by decide)]
      exact binds.mem
    obtain ⟨b', binds'⟩ := exists_binds there
    rw [binds.unique (outwards binds')]
    exact binds'

theorem trim_ne_nil_of_mem (there : '=' ∈ part) : trim part ≠ [] := by
  rw [(trims_trim part).mem_iff (by decide)] at there
  exact List.ne_nil_of_mem there

theorem readPart_of_binds (binds : Binds part b) (o : StreamOptions) : readPart o part = o.set b.1 b.2 := by
  rw [readPart, if_neg (trim_ne_nil_of_mem binds.mem)]
  exact setEntry_of_binds o (binds_trim_iff.2 binds)

theorem sound_trim_iff : Sound (trim part) ↔ Sound part := by
  have there := (trims_trim part).mem_iff (c := '=') (by decide)
  simp only [Sound, binds_trim_iff, there]

/-- What a part binds, if it binds anything. -/
def binding? (part : List Char) : Option Binding :=
  (cut? '=' part).map fun sides => (.ofList (trim sides.1), .ofList (trim sides.2))

theorem binding?_eq_some_iff : binding? part = some b ↔ Binds part b := by
  constructor
  · intro found
    obtain ⟨⟨before, after⟩, cut, rfl⟩ := Option.map_eq_some_iff.1 found
    obtain ⟨same, first⟩ := cut?_eq_some_iff.1 cut
    refine ⟨before, after, same, first, ?_, ?_⟩
    · rw [String.toList_ofList]
      exact trims_trim before
    · rw [String.toList_ofList]
      exact trims_trim after
  · rintro ⟨before, after, same, first, left, right⟩
    rw [binding?, cut?_eq_some_iff.2 ⟨same, first⟩]
    change some (String.ofList (trim before), String.ofList (trim after)) = some b
    rw [left.trim_eq, right.trim_eq, String.ofList_toList, String.ofList_toList]

theorem binding?_trim (part : List Char) : binding? (trim part) = binding? part :=
  Option.ext fun b => by
    rw [binding?_eq_some_iff, binding?_eq_some_iff, binds_trim_iff]

theorem filterMap_binding?_entries (parts : List (List Char)) :
    ((parts.map trim).filter (· ≠ [])).filterMap binding? = parts.filterMap binding? := by
  rw [List.filterMap_filter, List.filterMap_map]
  refine congrArg (fun f => parts.filterMap f) (funext fun part => ?_)
  by_cases blank : trim part = []
  · have none : binding? part = none := by rw [← binding?_trim, blank]; rfl
    simp [blank, none]
  · simp [blank, binding?_trim]

theorem eq_filterMap_of_forall₂ {found : List (List Char)} {bindings : List Binding}
    (bind : List.Forall₂ Binds found bindings) : bindings = found.filterMap binding? := by
  induction bind with
  | nil => rfl
  | cons binds _ ih => rw [List.filterMap_cons_some (binding?_eq_some_iff.2 binds), ← ih]

/-- A text is read when each of its parts that is not blank is sound, and then the bindings of the parts tell the
options. -/
theorem parse_joined_eq_ok_iff (free : ∀ part ∈ parts, ',' ∉ part) :
    parse (joined parts) = .ok o ↔
      (∀ part ∈ parts, trim part ≠ [] → Sound part) ∧ Reads (parts.filterMap binding?) o := by
  have sounds : (∀ entry ∈ (parts.map trim).filter (· ≠ []), Sound entry) ↔
      ∀ part ∈ parts, trim part ≠ [] → Sound part := by
    simp only [List.mem_filter, List.mem_map, decide_eq_true_eq, and_imp, forall_exists_index,
      forall_apply_eq_imp_iff₂, sound_trim_iff]
  rw [parse_joined free, ← foldlM_entries, run_eq_ok_iff, sounds]
  refine and_congr_right fun sound => ?_
  constructor
  · rintro ⟨bindings, bind, reads⟩
    rw [eq_filterMap_of_forall₂ bind, filterMap_binding?_entries] at reads
    exact reads
  · intro reads
    obtain ⟨bindings, _, bind, _, _⟩ := run_of_sound (sounds.2 sound)
    rw [← filterMap_binding?_entries, ← eq_filterMap_of_forall₂ bind] at reads
    exact ⟨bindings, bind, reads⟩

/-- The key of a part, if it has one. -/
def key? (part : List Char) : Option String := (binding? part).map (·.1)

/-- The same parts in another order, where those that have one key come in the order that they had. -/
structure Rearranged (parts others : List (List Char)) : Prop where
  perm : parts.Perm others
  inOrder : ∀ key, parts.filter (key? · = some key) = others.filter (key? · = some key)

theorem filter_bindings (key : String) (parts : List (List Char)) :
    (parts.filterMap binding?).filter (isNamed key) =
      (parts.filter (key? · = some key)).filterMap binding? := by
  rw [List.filter_filterMap, List.filterMap_filter]
  refine congrArg (fun f => parts.filterMap f) (funext fun part => ?_)
  rw [key?]
  cases binding? part with
  | none => simp
  | some b => simp [isNamed, Option.filter]

theorem last_filter (key : String) (kind : Binding → Bool) (bindings : List Binding) :
    last kind (bindings.filter (isNamed key)) = last (fun b => isNamed key b && kind b) bindings := by
  rw [last, last, ← List.filter_reverse, List.find?_filter]
  simp

variable {bindings bindings' : List Binding}

/-- Bindings of a kind that has one key are told by the bindings of that key. -/
theorem last_congr {key : String} {kind : Binding → Bool} (named : ∀ b, kind b = true → isNamed key b = true)
    (same : bindings.filter (isNamed key) = bindings'.filter (isNamed key)) :
    last kind bindings = last kind bindings' := by
  have within : (fun b => isNamed key b && kind b) = kind := by
    funext b
    cases holds : kind b with
    | true => rw [named b holds, Bool.and_true]
    | false => exact Bool.and_false _
  rw [← within, ← last_filter, same, last_filter]

/-- Bindings of different keys do not touch each other. -/
theorem Reads.congr (reads : Reads bindings o)
    (same : ∀ key, bindings.filter (isNamed key) = bindings'.filter (isNamed key)) : Reads bindings' o where
  packetLength := by
    rw [← last_congr (fun _ named => named) (same "packet_len")]
    exact reads.packetLength
  streamCount := by
    rw [← last_congr (fun _ named => named) (same "stream_count")]
    exact reads.streamCount
  direction := by
    have named : ∀ b, isDirection b = true → isNamed "direction" b = true :=
      fun b sets => decide_eq_true (of_decide_eq_true sets).1
    rw [← last_congr named (same "direction")]
    exact reads.direction
  extra := fun key => by
    have named : ∀ b, (isNamed key b && isExtra b) = true → isNamed key b = true :=
      fun b both => (Bool.and_eq_true_iff.1 both).1
    rw [← last_congr named (same key)]
    exact reads.extra key

theorem Rearranged.symm (moved : Rearranged parts others) : Rearranged others parts :=
  ⟨moved.perm.symm, fun key => (moved.inOrder key).symm⟩

theorem Rearranged.parse (moved : Rearranged parts others) (free : ∀ part ∈ parts, ',' ∉ part)
    (read : parse (joined parts) = .ok o) : parse (joined others) = .ok o := by
  have free' : ∀ part ∈ others, ',' ∉ part := fun part there => free part (moved.perm.mem_iff.2 there)
  obtain ⟨sound, reads⟩ := (parse_joined_eq_ok_iff free).1 read
  refine (parse_joined_eq_ok_iff free').2 ⟨fun part there => sound part (moved.perm.mem_iff.2 there), ?_⟩
  refine reads.congr fun key => ?_
  rw [filter_bindings, filter_bindings, moved.inOrder key]

/-- A part with other blanks about the whole of it, its key or its value. -/
inductive PartRespaced : List Char → List Char → Prop
  | whole {part part' core : List Char} (trims : Trims part core) (trims' : Trims part' core) :
      PartRespaced part part'
  | key {key key' core value : List Char} (first : '=' ∉ key) (trims : Trims key core)
      (trims' : Trims key' core) : PartRespaced (key ++ '=' :: value) (key' ++ '=' :: value)
  | value {key value value' core : List Char} (first : '=' ∉ key) (trims : Trims value core)
      (trims' : Trims value' core) : PartRespaced (key ++ '=' :: value) (key ++ '=' :: value')

/-- One change of the blanks in the parts of a text: another blank part, or other blanks in a part. -/
inductive Respaced : List (List Char) → List (List Char) → Prop
  | blank (before after : List (List Char)) {part : List Char} (blank : AllBlank part) :
      Respaced (before ++ after) (before ++ part :: after)
  | within (before after : List (List Char)) {part part' : List Char} (change : PartRespaced part part') :
      Respaced (before ++ part :: after) (before ++ part' :: after)

theorem notMem_of_trims {core : List Char} (trims : Trims part core) (trims' : Trims part' core)
    (free : ',' ∉ part) : ',' ∉ part' := by
  rw [trims.mem_iff (by decide)] at free
  rw [trims'.mem_iff (by decide)]
  exact free

theorem PartRespaced.notMem (change : PartRespaced part part') (free : ',' ∉ part) : ',' ∉ part' := by
  cases change with
  | whole trims trims' => exact notMem_of_trims trims trims' free
  | key _ trims trims' =>
    rw [List.mem_append, not_or] at free ⊢
    exact ⟨notMem_of_trims trims trims' free.1, free.2⟩
  | value _ trims trims' =>
    rw [List.mem_append, List.mem_cons, not_or, not_or] at free ⊢
    exact ⟨free.1, free.2.1, notMem_of_trims trims trims' free.2.2⟩

theorem PartRespaced.readPart (change : PartRespaced part part') (o : StreamOptions) :
    o.readPart part' = o.readPart part := by
  cases change with
  | whole trims trims' => rw [StreamOptions.readPart, StreamOptions.readPart, trims.trim_eq, trims'.trim_eq]
  | @key key key' core value first trims trims' =>
    have first' : '=' ∉ key' := by
      rw [trims'.mem_iff (by decide), ← trims.mem_iff (by decide)]
      exact first
    rw [readPart_of_binds (binds_of_trims first trims (trims_trim value)),
      readPart_of_binds (binds_of_trims first' trims' (trims_trim value))]
  | @value key value value' core first trims trims' =>
    rw [readPart_of_binds (binds_of_trims first (trims_trim key) trims),
      readPart_of_binds (binds_of_trims first (trims_trim key) trims')]

theorem readPart_of_allBlank (blank : AllBlank part) (o : StreamOptions) : readPart o part = .ok o := by
  rw [readPart, if_pos (trim_of_allBlank blank)]

theorem Respaced.foldlM (change : Respaced parts others) (o : StreamOptions) :
    others.foldlM readPart o = parts.foldlM readPart o := by
  cases change with
  | blank before after blank =>
    rw [List.foldlM_append, List.foldlM_append]
    refine congrArg (before.foldlM readPart o >>= ·) (funext fun read => ?_)
    rw [List.foldlM_cons, readPart_of_allBlank blank]
    rfl
  | within before after change =>
    simp only [List.foldlM_append, List.foldlM_cons, change.readPart]

theorem Respaced.notMem (change : Respaced parts others) (free : ∀ part ∈ parts, ',' ∉ part) :
    ∀ part ∈ others, ',' ∉ part := by
  cases change with
  | blank before after blank =>
    rw [List.forall_mem_append] at free
    rw [List.forall_mem_append, List.forall_mem_cons]
    exact ⟨free.1, blank.notMem (by decide), free.2⟩
  | within before after change =>
    rw [List.forall_mem_append, List.forall_mem_cons] at free ⊢
    exact ⟨free.1, change.notMem free.2.1, free.2.2⟩

/-- Whatever is done to the blanks, the parts stay parts and are read alike. -/
theorem foldlM_respaced (changes : Relation.ReflTransGen Respaced parts others)
    (free : ∀ part ∈ parts, ',' ∉ part) :
    (∀ part ∈ others, ',' ∉ part) ∧ others.foldlM readPart {} = parts.foldlM readPart {} := by
  induction changes with
  | refl => exact ⟨free, rfl⟩
  | tail _ change ih => exact ⟨change.notMem ih.1, (change.foldlM {}).trans ih.2⟩

/-- The order of parts with different keys makes no difference but for the error, if there is one, and the blanks
make none at all. -/
theorem parse_ignores_order_and_blanks (free : ∀ part ∈ parts, ',' ∉ part) :
    (∀ others, Rearranged parts others → ∀ o, parse (joined parts) = .ok o ↔ parse (joined others) = .ok o) ∧
      ∀ others, Relation.ReflTransGen Respaced parts others → parse (joined parts) = parse (joined others) := by
  constructor
  · intro others moved o
    have free' : ∀ part ∈ others, ',' ∉ part := fun part there => free part (moved.perm.mem_iff.2 there)
    exact ⟨moved.parse free, moved.symm.parse free'⟩
  · intro others changes
    obtain ⟨free', same⟩ := foldlM_respaced changes free
    rw [parse_joined free, parse_joined free', same]

theorem Rearranged.swap (before after : List (List Char))
    (apart : ∀ key, key? part = some key → key? part' ≠ some key) :
    Rearranged (before ++ part :: part' :: after) (before ++ part' :: part :: after) where
  perm := (List.Perm.swap part' part after).append_left before
  inOrder := fun key => by
    rw [List.filter_append, List.filter_append]
    refine congrArg (before.filter (key? · = some key) ++ ·) ?_
    by_cases here : key? part = some key
    · simp [here, apart key here]
    · simp [List.filter_cons, here]

def sampleParts : List (List Char) := ["vlan=10".toList, "packet_len=128".toList, "vlan=20".toList]

/-- The length has gone to the front. -/
def sampleMoved : List (List Char) := ["packet_len=128".toList, "vlan=10".toList, "vlan=20".toList]

/-- There are blanks about a key, and a part of its own that holds one. -/
def sampleSpaced : List (List Char) :=
  ["vlan=10".toList, " packet_len\t=128".toList, ['\u3000'], "vlan=20".toList]

theorem parse_sample_alike : parse (joined sampleParts) =
      .ok { packetLength := 128, extra := Dictionary.empty.insert "vlan" "20" } ∧
    parse (joined sampleMoved) = .ok { packetLength := 128, extra := Dictionary.empty.insert "vlan" "20" } ∧
    parse (joined sampleSpaced) = parse (joined sampleParts) := by
  have read : parse (joined sampleParts) =
      .ok { packetLength := 128, extra := Dictionary.empty.insert "vlan" "20" } := by decide
  have moved : Rearranged sampleParts sampleMoved := by
    refine Rearranged.swap [] ["vlan=20".toList] fun key named other => ?_
    have vlan : key? "vlan=10".toList = some "vlan" := by decide
    have length : key? "packet_len=128".toList = some "packet_len" := by decide
    rw [vlan] at named
    rw [length, ← named] at other
    revert other
    decide
  have core : Trims "packet_len".toList "packet_len".toList := trims_iff.2 (by decide)
  have core' : Trims " packet_len\t".toList "packet_len".toList := trims_iff.2 (by decide)
  have looser : PartRespaced "packet_len=128".toList " packet_len\t=128".toList :=
    .key (by decide) core core'
  have blank : AllBlank ['\u3000'] := by
    intro c there
    rw [List.mem_singleton.1 there]
    decide
  have spaced : Relation.ReflTransGen Respaced sampleParts sampleSpaced :=
    (Relation.ReflTransGen.single (.within ["vlan=10".toList] ["vlan=20".toList] looser)).tail
      (.blank ["vlan=10".toList, " packet_len\t=128".toList] ["vlan=20".toList] blank)
  have free : ∀ part ∈ sampleParts, ',' ∉ part := by decide
  obtain ⟨order, blanks⟩ := parse_ignores_order_and_blanks free
  exact ⟨read, (order _ moved _).1 read, (blanks _ spaced).symm⟩

end Srv6Traffic.StreamOptions
