/-! Lengths and counts as signed integers of 64 bits. A difference that leaves their range stops at the end
of it, and a number below zero has no counterpart without a sign. -/
namespace Srv6Traffic.Signed

/-- The difference, or the end of the range that it lies beyond. -/
def saturatingSub (a b : Int64) : Int64 :=
  .ofInt (max Int64.minValue.toInt (min Int64.maxValue.toInt (a.toInt - b.toInt)))

/-- The number as one without a sign, if it is one. -/
def unsigned? (n : Int64) : Option Nat := if n < 0 then none else some n.toInt.toNat

theorem toInt_saturatingSub (a b : Int64) :
    (saturatingSub a b).toInt = max Int64.minValue.toInt (min Int64.maxValue.toInt (a.toInt - b.toInt)) := by
  have low := Int64.toInt_minValue
  have high := Int64.toInt_maxValue
  exact Int64.toInt_ofInt_of_le (by omega) (by omega)

theorem toInt_max (a b : Int64) : (max a b).toInt = max a.toInt b.toInt := by
  change (if a ≤ b then b else a).toInt = _
  split
  next le => exact (Int.max_eq_right (Int64.le_iff_toInt_le.1 le)).symm
  next above => exact (Int.max_eq_left (Int.le_of_not_le (mt Int64.le_iff_toInt_le.2 above))).symm

theorem unsigned?_of_nonneg {n : Int64} (natural : 0 ≤ n.toInt) : unsigned? n = some n.toInt.toNat :=
  if_neg fun below => Int.not_lt.2 natural (Int64.lt_iff_toInt_lt.1 below)

theorem unsigned?_max_zero (n : Int64) : unsigned? (max n 0) = some n.toInt.toNat := by
  have value : (max n 0).toInt = max n.toInt 0 := toInt_max n 0
  rw [unsigned?_of_nonneg (by omega), value]
  exact congrArg some (by omega)

theorem getD_unsigned? (n : Int64) : (unsigned? n).getD 0 = n.toInt.toNat := by
  by_cases below : n < 0
  · rw [unsigned?, if_pos below]
    exact (Int.toNat_eq_zero.2 (Int.le_of_lt (Int64.lt_iff_toInt_lt.1 below))).symm
  · rw [unsigned?, if_neg below]
    rfl

end Srv6Traffic.Signed
