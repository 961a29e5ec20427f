import Srv6Traffic.Wire.Word

/-! Octets, words and parts of an octet string by their place in it. A part that stands first in
what is left from some place on is found at that place, and what follows it comes right after: the
laws `…_of_drop` move along a frame in this way, field by field. -/
namespace Srv6Traffic

/-- The octet at a place, as a number; zero behind the end. -/
def octetAt (bytes : Bytes) (i : Nat) : Nat := (bytes.getD i 0).toNat

/-- The word that starts at a place, high octet first. -/
def wordAt (bytes : Bytes) (i : Nat) : Nat := 256 * octetAt bytes i + octetAt bytes (i + 1)

/-- The `n` octets that start at a place, or as many as there are. -/
def cut (bytes : Bytes) (i n : Nat) : Bytes := (bytes.drop i).take n

theorem Word.encode_zero : Word.encode 0 = [0, 0] := by decide

section
variable {bytes rest : Bytes} {i n : Nat}

theorem octetAt_lt (bytes : Bytes) (i : Nat) : octetAt bytes i < 256 := UInt8.toNat_lt _

theorem octetAt_drop (bytes : Bytes) (i k : Nat) :
    octetAt (bytes.drop i) k = octetAt bytes (i + k) := by
  simp only [octetAt, List.getD_eq_getElem?_getD, List.getElem?_drop]

theorem drop_of_drop {front : Bytes} (h : bytes.drop i = front ++ rest) (size : front.length = n) :
    bytes.drop (i + n) = rest := by
  rw [← List.drop_drop, h, ← size, List.drop_left]

theorem octetAt_of_drop {b : UInt8} (h : bytes.drop i = b :: rest) :
    octetAt bytes i = b.toNat ∧ bytes.drop (i + 1) = rest := by
  constructor
  · rw [← Nat.add_zero i, ← octetAt_drop, h]
    rfl
  · exact drop_of_drop (show bytes.drop i = [b] ++ rest from h) rfl

theorem wordAt_of_drop {w : UInt16} (h : bytes.drop i = Word.encode w ++ rest) :
    wordAt bytes i = w.toNat ∧ bytes.drop (i + 2) = rest := by
  obtain ⟨high, h⟩ := octetAt_of_drop h
  obtain ⟨low, h⟩ := octetAt_of_drop h
  refine ⟨?_, h⟩
  rw [wordAt, high, low, ← Word.toNat_ofOctets, Word.ofOctets_high_low]

theorem cut_of_drop {part : Bytes} (h : bytes.drop i = part ++ rest) (size : part.length = n) :
    cut bytes i n = part ∧ bytes.drop (i + n) = rest := by
  refine ⟨?_, drop_of_drop h size⟩
  rw [cut, h, ← size, List.take_left]

theorem exists_octet (h : i + 1 ≤ bytes.length) : ∃ b, bytes.drop i = b :: bytes.drop (i + 1) :=
  ⟨_, List.drop_eq_getElem_cons h⟩

theorem exists_octets (n : Nat) (h : i + n ≤ bytes.length) :
    ∃ o : Octets n, bytes.drop i = o.val ++ bytes.drop (i + n) := by
  refine ⟨⟨(bytes.drop i).take n, ?_⟩, ?_⟩
  · rw [List.length_take, List.length_drop]
    omega
  · rw [← List.drop_drop, List.take_append_drop]

theorem exists_word (h : i + 2 ≤ bytes.length) :
    ∃ w, bytes.drop i = Word.encode w ++ bytes.drop (i + 2) := by
  obtain ⟨high, first⟩ := exists_octet (by omega : i + 1 ≤ bytes.length)
  obtain ⟨low, second⟩ := exists_octet (by omega : i + 1 + 1 ≤ bytes.length)
  exact ⟨Word.ofOctets high low, by rw [first, second]; simp [Word.encode]⟩

/-- A change to one octet finds it behind whatever comes first. -/
theorem modify_append (front rest : Bytes) (i : Nat) (f : UInt8 → UInt8) :
    (front ++ rest).modify (front.length + i) f = front ++ rest.modify i f := by
  induction front with
  | nil => rw [List.nil_append, List.nil_append, List.length_nil, Nat.zero_add]
  | cons b front ih =>
    rw [List.cons_append, List.cons_append, List.length_cons, Nat.add_right_comm,
      List.modify_succ_cons, ih]

end
end Srv6Traffic
