import Srv6Traffic.Wire.OnesSum

/-! One's-complement sums as plain numbers. Words are added up without a bound and the carries are
folded in once, at the end; folding early, as sixteen-bit registers do, gives the same. -/
namespace Srv6Traffic.OnesSum

/-- The words of an octet string added up, with a zero behind an odd last octet. -/
def total : Bytes → Nat
  | [] => 0
  | [a] => 256 * a.toNat
  | a :: b :: rest => 256 * a.toNat + b.toNat + total rest

/-- A total with all its carries brought back in at the low end, until sixteen bits hold it. -/
def fold (n : Nat) : Nat := if n = 0 then 0 else (n - 1) % 65535 + 1

/-- The one's-complement sum of an octet string. -/
def sum (bytes : Bytes) : Nat := fold (total bytes)

@[simp] theorem fold_zero : fold 0 = 0 := rfl

theorem fold_of_pos {n : Nat} (h : 0 < n) : fold n = (n - 1) % 65535 + 1 := by
  rw [fold, if_neg (Nat.ne_of_gt h)]

theorem fold_of_le {n : Nat} (h : n ≤ 65535) : fold n = n := by
  by_cases zero : n = 0
  · rw [zero, fold_zero]
  · rw [fold_of_pos (by omega)]
    omega

/-- One carry more or less that is brought back in makes no difference. -/
theorem fold_carry (n : Nat) : fold (n % 65536 + n / 65536) = fold n := by
  by_cases zero : n = 0
  · subst n
    rfl
  · rw [fold_of_pos (by omega), fold_of_pos (by omega)]
    omega

theorem fold_le (n : Nat) : fold n ≤ 65535 := by
  by_cases zero : n = 0
  · subst n
    decide
  · rw [fold_of_pos (by omega)]
    omega

theorem fold_fold_add (m n : Nat) : fold (fold m + n) = fold (m + n) := by
  by_cases zero : m = 0
  · rw [zero, fold_zero]
  · rw [fold_of_pos (by omega : 0 < m), fold_of_pos (by omega), fold_of_pos (by omega)]
    omega

/-- A total and the complement of its sum add up to all ones. -/
theorem fold_add_complement (n : Nat) : fold (n + (65535 - fold n)) = 65535 := by
  rw [← fold_fold_add, Nat.add_sub_cancel' (fold_le n)]
  decide

theorem toNat_add_eq_fold (a b : UInt16) : (add a b).toNat = fold (a.toNat + b.toNat) := by
  have := a.toNat_lt
  have := b.toNat_lt
  rw [toNat_add, ← fold_carry, fold_of_le (by omega)]

theorem toNat_addBytes (start : UInt16) (bytes : Bytes) :
    (addBytes start bytes).toNat = fold (start.toNat + total bytes) := by
  fun_induction addBytes start bytes with
  | case1 start =>
    have := start.toNat_lt
    rw [total, Nat.add_zero, fold_of_le (by omega)]
  | case2 start a =>
    rw [toNat_add_eq_fold, Word.toNat_ofOctets, total]
    rfl
  | case3 start a b rest ih =>
    rw [ih, toNat_add_eq_fold, fold_fold_add, Word.toNat_ofOctets, total, Nat.add_assoc]

theorem toNat_addBytes_zero (bytes : Bytes) : (addBytes 0 bytes).toNat = sum bytes := by
  rw [toNat_addBytes, sum]
  exact congrArg fold (Nat.zero_add _)

/-- Words stay where they are behind a whole number of words. -/
theorem total_append {front : Bytes} (even : front.length % 2 = 0) (rest : Bytes) :
    total (front ++ rest) = total front + total rest := by
  fun_induction total front with
  | case1 => rw [List.nil_append, Nat.zero_add]
  | case2 a => cases even
  | case3 a b front ih =>
    rw [List.length_cons, List.length_cons] at even
    rw [List.cons_append, List.cons_append, total, ih (by omega), ← Nat.add_assoc]

theorem total_encode (w : UInt16) (rest : Bytes) :
    total (Word.encode w ++ rest) = w.toNat + total rest := by
  change 256 * (Word.high w).toNat + (Word.low w).toNat + total rest = _
  rw [← Word.toNat_ofOctets, Word.ofOctets_high_low]

theorem toNat_addBytes_addBytes {front : Bytes} (even : front.length % 2 = 0) (rest : Bytes) :
    (addBytes (addBytes 0 front) rest).toNat = sum (front ++ rest) := by
  rw [toNat_addBytes, toNat_addBytes_zero, sum, sum, fold_fold_add, total_append even]

end Srv6Traffic.OnesSum
