import Srv6Traffic.Header.Field

/-! What a reader has read. Each reader comes with the octet strings on which it gives a value, so
that a decoder built from readers can be turned round into an equation on its input. -/
namespace Srv6Traffic

namespace Reader
variable {α β : Type} {bytes rest : Bytes}

theorem octet_eq_some_iff {b : UInt8} : octet bytes = some (b, rest) ↔ bytes = b :: rest := by
  cases bytes with
  | nil => simp [octet]
  | cons first tail => simp [octet]

theorem word_eq_some_iff {w : UInt16} :
    word bytes = some (w, rest) ↔ bytes = Word.encode w ++ rest := by
  constructor
  · intro h
    match bytes with
    | [] => cases h
    | [_] => cases h
    | a :: b :: tail =>
      rw [word_cons] at h
      cases h
      simp [Word.encode]
  · intro same
    rw [same]
    exact word_append w rest

theorem octets_eq_some_iff {n : Nat} {o : Octets n} :
    octets n bytes = some (o, rest) ↔ bytes = o.val ++ rest := by
  constructor
  · intro h
    unfold octets at h
    split at h
    · cases h
      exact (List.take_append_drop n bytes).symm
    · cases h
  · intro same
    rw [same]
    exact octets_append o rest

theorem check_eq_some_iff {ok : Bool} {u : Unit} :
    check ok bytes = some (u, rest) ↔ ok = true ∧ bytes = rest := by
  cases ok <;> simp [check]

theorem lift_eq_some_iff {decided : Option α} {a : α} :
    lift decided bytes = some (a, rest) ↔ decided = some a ∧ bytes = rest := by
  cases decided <;> simp [lift]

theorem pure_eq_some_iff {a b : α} :
    (pure a : Reader α) bytes = some (b, rest) ↔ a = b ∧ bytes = rest := by
  rw [pure_eq, Option.some.injEq, Prod.mk.injEq]

theorem bind_eq_some_iff {read : Reader α} {next : α → Reader β} {b : β} :
    (read >>= next) bytes = some (b, rest) ↔
      ∃ a mid, read bytes = some (a, mid) ∧ next a mid = some (b, rest) := by
  rw [bind_eq, Option.bind_eq_some_iff]
  exact ⟨fun ⟨r, h⟩ => ⟨r.1, r.2, h⟩, fun ⟨a, mid, h⟩ => ⟨(a, mid), h⟩⟩

theorem map_eq_some_iff {f : α → β} {read : Reader α} {b : β} :
    (f <$> read) bytes = some (b, rest) ↔ ∃ a, read bytes = some (a, rest) ∧ f a = b := by
  rw [map_eq, Option.map_eq_some_iff]
  constructor
  · intro ⟨⟨a, mid⟩, h, same⟩
    cases same
    exact ⟨a, h, rfl⟩
  · intro ⟨a, h, same⟩
    exact ⟨(a, rest), h, by rw [same]⟩

theorem times_eq_some_iff {read : Reader α} {encode : α → Bytes}
    (h : ∀ bytes a rest, read bytes = some (a, rest) ↔ bytes = encode a ++ rest)
    {n : Nat} {items : List α} :
    times read n bytes = some (items, rest) ↔
      items.length = n ∧ bytes = items.flatMap encode ++ rest := by
  constructor
  · intro done
    induction n generalizing bytes items with
    | zero =>
      obtain ⟨rfl, rfl⟩ := pure_eq_some_iff.1 done
      exact ⟨rfl, rfl⟩
    | succ n ih =>
      rw [times, bind_eq_some_iff] at done
      obtain ⟨item, mid, first, done⟩ := done
      obtain ⟨tail, after, others, done⟩ := bind_eq_some_iff.1 done
      obtain ⟨rfl, rfl⟩ := pure_eq_some_iff.1 done
      obtain ⟨length, rfl⟩ := ih others
      rw [(h _ _ _).1 first]
      exact ⟨by rw [List.length_cons, length], by simp⟩
  · intro sized
    obtain ⟨length, same⟩ := sized
    rw [same, ← length]
    exact times_append (fun a rest => (h _ a rest).2 rfl) items rest

end Reader

namespace FieldReader
variable {α β : Type} {bytes rest : Bytes} {field : Field}

theorem need_eq_ok_iff {read : Reader α} {r : α × Bytes} :
    need field read bytes = .ok r ↔ read bytes = some r := by
  unfold need
  cases read bytes <;> simp

theorem check_eq_ok_iff {ok : Bool} {u : Unit} :
    check field ok bytes = .ok (u, rest) ↔ ok = true ∧ bytes = rest := by
  rw [check, need_eq_ok_iff, Reader.check_eq_some_iff]

theorem bind_eq_ok_iff {read : FieldReader α} {next : α → FieldReader β} {b : β} :
    (read >>= next) bytes = .ok (b, rest) ↔
      ∃ a mid, read bytes = .ok (a, mid) ∧ next a mid = .ok (b, rest) := by
  rw [bind_eq]
  cases h : read bytes with
  | error cause => simp [Except.bind]
  | ok r =>
    constructor
    · intro done
      exact ⟨r.1, r.2, rfl, done⟩
    · intro ⟨a, mid, same, done⟩
      cases same
      exact done

end FieldReader
end Srv6Traffic
