import Srv6Traffic.Proofs.SliceTable.Effect

/-! The past of the slices in a table. Whatever commands have been given, the pieces that a slice has lost
and what it shows make up what it showed when it was made. -/
namespace Srv6Traffic.SliceTable

/-- What a slice showed when it was made, and the pieces that have been taken off it since. -/
structure Past where
  created : Bytes
  removed : List Bytes

namespace Past

def begin (s : Slice) : Past := ⟨s.data, []⟩

def without (p : Past) (piece : Bytes) : Past := { p with removed := p.removed ++ [piece] }

/-- Nothing has got lost between the pieces and the slice that is left. -/
def Accounts (p : Past) (s : Slice) : Prop := p.removed.flatten ++ s.data = p.created

theorem begin_accounts (s : Slice) : (begin s).Accounts s := rfl

theorem Accounts.without {p : Past} {s s' : Slice} {piece : Bytes} (past : p.Accounts s)
    (split : piece ++ s'.data = s.data) : (p.without piece).Accounts s' := by
  rw [Accounts] at past
  rw [Accounts, Past.without, List.flatten_concat, List.append_assoc, split, past]

end Past

/-- The pasts of a table after one more command. -/
def record (t : SliceTable) (c : Command) (pasts : List Past) : List Past :=
  let kept := match t.removal? c with
    | some (slot, piece) => pasts.modify slot (·.without piece)
    | none => pasts
  kept ++ ((t.step c).2.slots.drop t.slots.length).map Past.begin

def pasts (t : SliceTable) (before : List Past) : List Command → List Past
  | [] => before
  | c :: commands => pasts (t.step c).2 (t.record c before) commands

/-- Each slice has a past, which accounts for all that it showed in the beginning. -/
structure Lossless (pasts : List Past) (slots : List Slice) : Prop where
  length : pasts.length = slots.length
  accounts : ∀ (i : Nat) (p : Past) (s : Slice), pasts[i]? = some p → slots[i]? = some s → p.Accounts s

namespace Lossless
variable {pasts : List Past} {slots : List Slice} {slot : Nat} {s s' : Slice} {piece : Bytes}

theorem append (lossless : Lossless pasts slots) (new : List Slice) :
    Lossless (pasts ++ new.map Past.begin) (slots ++ new) := by
  refine ⟨by simp [lossless.length], ?_⟩
  intro i p s past there
  by_cases inside : i < slots.length
  · rw [List.getElem?_append_left (lossless.length ▸ inside)] at past
    rw [List.getElem?_append_left inside] at there
    exact lossless.accounts i p s past there
  · have behind := Nat.not_lt.1 inside
    rw [List.getElem?_append_right behind] at there
    rw [List.getElem?_append_right (lossless.length ▸ behind), lossless.length, List.getElem?_map,
      there] at past
    cases past
    exact Past.begin_accounts s

theorem take (lossless : Lossless pasts slots) (there : slots[slot]? = some s)
    (split : piece ++ s'.data = s.data) :
    Lossless (pasts.modify slot (·.without piece)) (slots.set slot s') := by
  refine ⟨by simp [lossless.length], ?_⟩
  intro i p r past now
  by_cases same : slot = i
  · cases same
    obtain ⟨inside, _⟩ := List.getElem?_eq_some_iff.1 there
    rw [List.getElem?_set_self inside] at now
    rw [List.getElem?_modify_eq] at past
    cases now
    cases before : pasts[slot]? with
    | none =>
      rw [before] at past
      cases past
    | some q =>
      rw [before] at past
      cases past
      exact (lossless.accounts slot q s before there).without split
  · rw [List.getElem?_set_ne same] at now
    rw [List.getElem?_modify_ne _ _ same] at past
    exact lossless.accounts i p r past now

/-- One more command loses nothing either. -/
theorem record {t : SliceTable} (lossless : Lossless pasts t.slots) (c : Command) :
    Lossless (t.record c pasts) (t.step c).2.slots := by
  have happened := t.effect c
  unfold SliceTable.record
  generalize (t.step c).2 = t' at happened ⊢
  cases happened with
  | nothing still => simpa [still] using lossless
  | created w still => simpa [still] using lossless.append [_]
  | shared w still => simpa [still] using lossless
  | viewed s seen still => simpa [still] using lossless.append [s]
  | @taken _ _ _ _ new _ there pops removal _ =>
    have taken := (lossless.take there pops.data_eq).append new
    simpa [removal] using taken

theorem run {t : SliceTable} (lossless : Lossless pasts t.slots) (commands : List Command) :
    Lossless (t.pasts pasts commands) (t.run commands).slots := by
  induction commands generalizing t pasts with
  | nil => exact lossless
  | cons c commands ih => exact ih (lossless.record c)

theorem empty : Lossless [] [] := ⟨rfl, nofun⟩

end Lossless
end Srv6Traffic.SliceTable
