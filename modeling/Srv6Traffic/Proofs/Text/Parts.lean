import Mathlib.Data.List.DropRight
import Mathlib.Data.Nat.Digits.Defs
import Srv6Traffic.Text.Blank
import Srv6Traffic.Text.Integer
import Srv6Traffic.Text.Split

/-! What cutting, trimming and reading a number come to. Each function is tied to a description of how its
result makes up the text again, and the description admits that result only. -/
namespace Srv6Traffic.Text
variable {sep : Char} {text core before after : List Char} {parts : List (List Char)}

/-- Parts without separators, which make up the text with a separator between neighbours. -/
structure Separates (sep : Char) (text : List Char) (parts : List (List Char)) : Prop where
  nonempty : parts ≠ []
  free : ∀ part ∈ parts, sep ∉ part
  joined : [sep].intercalate parts = text

theorem pieces_eq_splitOn (sep : Char) (text : List Char) : pieces sep text = text.splitOn sep := by
  induction text with
  | nil => rfl
  | cons c rest ih =>
    rw [List.splitOn_cons_eq_if_modifyHead, ← ih, pieces]
    by_cases cut : c = sep
    · rw [if_pos cut, if_pos (beq_iff_eq.2 cut)]
    · rw [if_neg cut, if_neg (fun same => cut (beq_iff_eq.1 same))]
      cases split : pieces sep rest with
      | nil => exact absurd split (pieces_ne_nil sep rest)
      | cons piece more => rfl

theorem notMem_of_mem_pieces {part : List Char} (there : part ∈ pieces sep text) : sep ∉ part := by
  induction text generalizing part with
  | nil =>
    rw [List.mem_singleton.1 there]
    exact List.not_mem_nil
  | cons c rest ih =>
    rw [pieces] at there
    by_cases cut : c = sep
    · rw [if_pos cut] at there
      cases there with
      | head => exact List.not_mem_nil
      | tail _ later => exact ih later
    · rw [if_neg cut] at there
      cases split : pieces sep rest with
      | nil => exact absurd split (pieces_ne_nil sep rest)
      | cons piece more =>
        rw [split] at there ih
        cases there with
        | head =>
          rw [List.mem_cons, not_or]
          exact ⟨Ne.symm cut, ih List.mem_cons_self⟩
        | tail _ later => exact ih (List.mem_cons_of_mem _ later)

theorem separates_iff : Separates sep text parts ↔ pieces sep text = parts := by
  constructor
  · intro ⟨nonempty, free, joined⟩
    rw [pieces_eq_splitOn, ← joined]
    exact List.splitOn_intercalate sep free nonempty
  · intro same
    subst same
    refine ⟨pieces_ne_nil sep text, fun _ there => notMem_of_mem_pieces there, ?_⟩
    rw [pieces_eq_splitOn]
    exact List.intercalate_splitOn sep

theorem pieces_append (sep : Char) (text rest : List Char) :
    pieces sep (text ++ sep :: rest) = pieces sep text ++ pieces sep rest := by
  induction text with
  | nil => simp [pieces]
  | cons c text ih =>
    rw [List.cons_append, pieces, pieces]
    by_cases cut : c = sep
    · rw [if_pos cut, if_pos cut, ih, List.cons_append]
    · rw [if_neg cut, if_neg cut, ih]
      cases split : pieces sep text with
      | nil => exact absurd split (pieces_ne_nil sep text)
      | cons piece more => rfl

theorem map_intercalate {α β : Type} (f : α → β) (sep : List α) (parts : List (List α)) :
    (sep.intercalate parts).map f = (sep.map f).intercalate (parts.map (List.map f)) := by
  induction parts with
  | nil => rfl
  | cons part parts ih =>
    cases parts with
    | nil => simp
    | cons next parts =>
      rw [List.intercalate_cons_cons, List.map_append, List.map_append, ih, List.map_cons, List.map_cons,
        List.map_cons, List.intercalate_cons_cons]

theorem mem_intercalate_iff {c : Char} (apart : c ≠ sep) :
    c ∈ [sep].intercalate parts ↔ ∃ part ∈ parts, c ∈ part := by
  induction parts with
  | nil => simp
  | cons part parts ih =>
    cases parts with
    | nil => simp
    | cons next parts =>
      rw [List.intercalate_cons_cons, List.mem_append, List.mem_append, ih, List.mem_singleton]
      simp [apart]

theorem notMem_takeWhile (sep : Char) (text : List Char) : sep ∉ text.takeWhile (· ≠ sep) := by
  intro there
  have differs := List.all_eq_true.1 List.all_takeWhile sep there
  exact of_decide_eq_true differs rfl

/-- The first separator of a text, with what stands before and after it. -/
theorem cut?_eq_some_iff : cut? sep text = some (before, after) ↔
    text = before ++ sep :: after ∧ sep ∉ before := by
  constructor
  · intro found
    rw [cut?] at found
    cases rest : text.dropWhile (· ≠ sep) with
    | nil =>
      rw [rest] at found
      contradiction
    | cons c tail =>
      rw [rest] at found
      obtain ⟨rfl, rfl⟩ := Prod.mk.inj (Option.some.inj found)
      have stopped := List.head?_dropWhile_not (· ≠ sep) text
      rw [rest, List.head?_cons] at stopped
      have same : c = sep := of_not_not (of_decide_eq_false stopped)
      subst same
      refine ⟨?_, notMem_takeWhile c text⟩
      rw [← rest, List.takeWhile_append_dropWhile]
  · rintro ⟨rfl, free⟩
    have apart : ∀ c ∈ before, decide (c ≠ sep) = true := fun _ there =>
      decide_eq_true (ne_of_mem_of_not_mem there free)
    have stop : ¬decide (sep ≠ sep) = true := fun differs => of_decide_eq_true differs rfl
    rw [cut?, List.dropWhile_append_of_pos apart, List.takeWhile_append_of_pos apart,
      List.dropWhile_cons, if_neg stop, List.takeWhile_cons, if_neg stop, List.append_nil]

theorem cut?_eq_none_iff : cut? sep text = none ↔ sep ∉ text := by
  constructor
  · intro missing there
    obtain ⟨before, after, same, first⟩ := List.eq_append_cons_of_mem there
    rw [cut?_eq_some_iff.2 ⟨same, first⟩] at missing
    contradiction
  · intro free
    have all : text.dropWhile (· ≠ sep) = [] := List.dropWhile_eq_nil_iff.2 fun _ there =>
      decide_eq_true (ne_of_mem_of_not_mem there free)
    rw [cut?, all]

def AllBlank (text : List Char) : Prop := ∀ c ∈ text, isBlank c = true

/-- A text without the blanks at its ends. -/
structure Trims (text core : List Char) : Prop where
  surrounded : ∃ before after, AllBlank before ∧ AllBlank after ∧ text = before ++ (core ++ after)
  head : ∀ c ∈ core.head?, isBlank c = false
  last : ∀ c ∈ core.getLast?, isBlank c = false

theorem dropWhile_of_head (head : ∀ c ∈ text.head?, isBlank c = false) : text.dropWhile isBlank = text := by
  cases text with
  | nil => rfl
  | cons c rest =>
    rw [List.dropWhile_cons, head c rfl]
    rfl

theorem Trims.trim_eq (trims : Trims text core) : trim text = core := by
  obtain ⟨⟨before, after, blankBefore, blankAfter, rfl⟩, head, last⟩ := trims
  have start : trimStart (before ++ (core ++ after)) = (core ++ after).dropWhile isBlank :=
    List.dropWhile_append_of_pos blankBefore
  rw [trim, start]
  cases core with
  | nil =>
    rw [List.nil_append, List.dropWhile_eq_nil_iff.2 blankAfter]
    rfl
  | cons c rest =>
    have back : AllBlank after.reverse := fun c there => blankAfter c (List.mem_reverse.1 there)
    have kept : ∀ d ∈ (c :: rest).reverse.head?, isBlank d = false := by
      rw [List.head?_reverse]
      exact last
    have front : ∀ d ∈ (c :: rest ++ after).head?, isBlank d = false := head
    rw [dropWhile_of_head front, trimEnd, List.reverse_append, List.dropWhile_append_of_pos back,
      dropWhile_of_head kept, List.reverse_reverse]

theorem head_dropWhile (text : List Char) : ∀ c ∈ (text.dropWhile isBlank).head?, isBlank c = false := by
  intro c there
  have stopped := List.head?_dropWhile_not isBlank text
  rw [Option.mem_def] at there
  rw [there] at stopped
  exact stopped

theorem blank_takeWhile (text : List Char) : AllBlank (text.takeWhile isBlank) :=
  List.all_eq_true.1 List.all_takeWhile

theorem trims_trim (text : List Char) : Trims text (trim text) := by
  have front := List.takeWhile_append_dropWhile (p := isBlank) (l := text)
  have back := List.takeWhile_append_dropWhile (p := isBlank) (l := (trimStart text).reverse)
  have split : trim text ++ ((trimStart text).reverse.takeWhile isBlank).reverse = trimStart text := by
    rw [trim, trimEnd, ← List.reverse_append, back, List.reverse_reverse]
  refine ⟨⟨text.takeWhile isBlank, ((trimStart text).reverse.takeWhile isBlank).reverse,
    blank_takeWhile text, fun c there => blank_takeWhile _ c (List.mem_reverse.1 there), ?_⟩, ?_, ?_⟩
  · rw [split]
    exact front.symm
  · intro c there
    refine head_dropWhile text c ?_
    change c ∈ (trimStart text).head?
    rw [← split, List.head?_append, Option.mem_def.1 there]
    rfl
  · intro c there
    refine head_dropWhile (trimStart text).reverse c ?_
    rw [trim, trimEnd, List.getLast?_reverse] at there
    exact there

/-- The only core of a text is what is left when it is trimmed. -/
theorem trims_iff : Trims text core ↔ trim text = core := by
  constructor
  · exact Trims.trim_eq
  · rintro rfl
    exact trims_trim text

theorem allBlank_nil : AllBlank [] := fun _ there => absurd there List.not_mem_nil

theorem AllBlank.append (left : AllBlank before) (right : AllBlank after) : AllBlank (before ++ after) :=
  List.forall_mem_append.2 ⟨left, right⟩

theorem AllBlank.notMem {c : Char} (blank : AllBlank text) (solid : isBlank c = false) : c ∉ text := by
  intro there
  rw [blank c there] at solid
  contradiction

theorem trims_self (head : ∀ c ∈ text.head?, isBlank c = false) (last : ∀ c ∈ text.getLast?, isBlank c = false) :
    Trims text text :=
  ⟨⟨[], [], allBlank_nil, allBlank_nil, by simp⟩, head, last⟩

theorem trim_of_allBlank (blank : AllBlank text) : trim text = [] :=
  Trims.trim_eq ⟨⟨text, [], blank, allBlank_nil, by simp⟩, fun _ none => by contradiction,
    fun _ none => by contradiction⟩

theorem Trims.mem_iff {c : Char} (trims : Trims text core) (solid : isBlank c = false) : c ∈ text ↔ c ∈ core := by
  obtain ⟨⟨before, after, blankBefore, blankAfter, rfl⟩, _, _⟩ := trims
  have left := blankBefore.notMem solid
  have right := blankAfter.notMem solid
  simp [left, right]

/-- More blanks at the ends leave the core as it is. -/
theorem Trims.pad (trims : Trims text core) (left : AllBlank before) (right : AllBlank after) :
    Trims (before ++ (text ++ after)) core := by
  obtain ⟨⟨inner, inner', blankInner, blankInner', rfl⟩, head, last⟩ := trims
  refine ⟨⟨before ++ inner, inner' ++ after, left.append blankInner, blankInner'.append right, ?_⟩, head, last⟩
  simp

/-- Decimal digits of ASCII, at least one. -/
structure Digits (text : List Char) : Prop where
  nonempty : text ≠ []
  ascii : ∀ c ∈ text, '0' ≤ c ∧ c ≤ '9'

/-- The number that digits stand for, the greatest place first. -/
def valueOf (digits : List Char) : Nat := Nat.ofDigits 10 (digits.reverse.map fun c => c.toNat - 48)

/-- The literals of a number: digits, with a sign or without one. -/
inductive Denotes : List Char → Int → Prop
  | bare {digits : List Char} (spelled : Digits digits) : Denotes digits (valueOf digits)
  | plus {digits : List Char} (spelled : Digits digits) : Denotes ('+' :: digits) (valueOf digits)
  | minus {digits : List Char} (spelled : Digits digits) : Denotes ('-' :: digits) (-(valueOf digits))

theorem isDigit_iff (c : Char) : c.isDigit = true ↔ '0' ≤ c ∧ c ≤ '9' := by
  rw [Char.isDigit, Bool.and_eq_true, decide_eq_true_eq, decide_eq_true_eq]
  rfl

theorem foldl_digits (text : List Char) :
    text.foldl (fun n c => 10 * n + (c.toNat - 48)) 0 = valueOf text := by
  induction text using List.reverseRecOn with
  | nil => rfl
  | append_singleton before last ih =>
    rw [List.foldl_concat, ih, valueOf, valueOf, List.reverse_concat, List.map_cons, Nat.ofDigits_cons, add_comm]

theorem natural?_eq_some_iff {n : Nat} : natural? text = some n ↔ Digits text ∧ n = valueOf text := by
  have spelled : (text ≠ [] ∧ text.all Char.isDigit) ↔ Digits text := by
    constructor
    · rintro ⟨nonempty, ascii⟩
      exact ⟨nonempty, fun c there => (isDigit_iff c).1 (List.all_eq_true.1 ascii c there)⟩
    · intro ⟨nonempty, ascii⟩
      exact ⟨nonempty, List.all_eq_true.2 fun c there => (isDigit_iff c).2 (ascii c there)⟩
  rw [natural?, foldl_digits, Option.ite_none_right_eq_some, spelled, Option.some.injEq, eq_comm (a := n)]

theorem Digits.head_ne {c : Char} {rest : List Char} (spelled : Digits (c :: rest)) : c ≠ '+' ∧ c ≠ '-' := by
  have low := (spelled.ascii c List.mem_cons_self).1
  constructor
  · rintro rfl
    revert low
    decide
  · rintro rfl
    revert low
    decide

theorem integer?_of_unsigned (plus : text.head? ≠ some '+') (minus : text.head? ≠ some '-') :
    integer? text = (natural? text).map fun n => (n : Int) := by
  unfold integer?
  split
  · exact absurd rfl minus
  · exact absurd rfl plus
  · rfl

theorem integer?_eq_some_iff {n : Int} : integer? text = some n ↔ Denotes text n := by
  constructor
  · intro read
    unfold integer? at read
    split at read
    all_goals
      obtain ⟨m, lifted, rfl⟩ := Option.map_eq_some_iff.1 read
      obtain ⟨k, spelled, ⟨⟩⟩ := Option.bind_eq_some_iff.1 lifted
      obtain ⟨ascii, rfl⟩ := natural?_eq_some_iff.1 spelled
    · exact .minus ascii
    · exact .plus ascii
    · exact .bare ascii
  · intro denotes
    cases denotes with
    | bare spelled =>
      have unsigned : text.head? ≠ some '+' ∧ text.head? ≠ some '-' := by
        cases text with
        | nil => exact absurd rfl spelled.nonempty
        | cons c rest => exact ⟨fun same => spelled.head_ne.1 (Option.some.inj same),
            fun same => spelled.head_ne.2 (Option.some.inj same)⟩
      rw [integer?_of_unsigned unsigned.1 unsigned.2, natural?_eq_some_iff.2 ⟨spelled, rfl⟩]
      rfl
    | plus spelled =>
      rw [integer?, natural?_eq_some_iff.2 ⟨spelled, rfl⟩]
      rfl
    | minus spelled =>
      rw [integer?, natural?_eq_some_iff.2 ⟨spelled, rfl⟩]
      rfl

theorem int64?_eq_some_iff {n : Int64} : int64? text = some n ↔ Denotes text n.toInt := by
  rw [int64?, Option.bind_eq_some_iff]
  constructor
  · rintro ⟨m, read, fits⟩
    rw [Option.ite_none_right_eq_some] at fits
    obtain ⟨⟨low, high⟩, same⟩ := fits
    rw [← Option.some.inj same, Int64.toInt_ofInt_of_le low (Int.lt_of_le_of_lt high (by decide))]
    exact integer?_eq_some_iff.1 read
  · intro denotes
    refine ⟨n.toInt, integer?_eq_some_iff.2 denotes, ?_⟩
    rw [if_pos ⟨Int64.le_toInt n, Int64.toInt_le n⟩, Int64.ofInt_toInt]

theorem valueOf_toDigits (n : Nat) : valueOf (Nat.toDigits 10 n) = n := by
  rw [← foldl_digits]
  exact Nat.ofDigitChars_toDigits (by decide) (by decide)

theorem digits_toDigits (n : Nat) : Digits (Nat.toDigits 10 n) where
  nonempty := Nat.toDigits_ne_nil
  ascii := fun c there => (isDigit_iff c).1 (Nat.isDigit_of_mem_toDigits (by decide) (by decide) there)

theorem denotes_toString_nat (n : Nat) : Denotes (toString n).toList n := by
  have bare := Denotes.bare (digits_toDigits n)
  rw [valueOf_toDigits] at bare
  rwa [Nat.toString_eq_repr, Nat.toList_repr]

theorem denotes_toString (n : Int) : Denotes (toString n).toList n := by
  cases n with
  | ofNat n => exact denotes_toString_nat n
  | negSucc n =>
    have minus := Denotes.minus (digits_toDigits (n + 1))
    have shown : (toString (Int.negSucc n)).toList = '-' :: Nat.toDigits 10 (n + 1) := by
      change ("-" ++ (n + 1).repr).toList = _
      rw [String.toList_append, Nat.toList_repr]
      rfl
    rw [valueOf_toDigits] at minus
    rw [shown]
    exact minus

theorem digit_solid {c : Char} (low : '0' ≤ c) (high : c ≤ '9') : isBlank c = false ∧ c ≠ ',' := by
  have low' : 48 ≤ c.toNat := low
  have high' : c.toNat ≤ 57 := high
  constructor
  · simp [isBlank, blankRanges]
    omega
  · rintro rfl
    contradiction

/-- A literal has neither blanks nor commas. -/
theorem Denotes.solid {n : Int} (denotes : Denotes text n) : ∀ c ∈ text, isBlank c = false ∧ c ≠ ',' := by
  have digits : ∀ {digits : List Char}, Digits digits → ∀ c ∈ digits, isBlank c = false ∧ c ≠ ',' :=
    fun spelled c there => digit_solid (spelled.ascii c there).1 (spelled.ascii c there).2
  cases denotes with
  | bare spelled => exact digits spelled
  | plus spelled => exact List.forall_mem_cons.2 ⟨by decide, digits spelled⟩
  | minus spelled => exact List.forall_mem_cons.2 ⟨by decide, digits spelled⟩

end Srv6Traffic.Text
