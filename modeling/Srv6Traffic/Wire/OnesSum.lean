import Srv6Traffic.Wire.Word

/-! One's-complement sums over octet strings, taken as words with the high octet first. A carry out
of the sixteen bits comes back in at the low end, and an odd last octet counts as a high one. -/
namespace Srv6Traffic.OnesSum

def add (a b : UInt16) : UInt16 :=
  .ofNat ((a.toNat + b.toNat) % 65536 + (a.toNat + b.toNat) / 65536)

def addBytes (sum : UInt16) : Bytes → UInt16
  | [] => sum
  | [a] => add sum (Word.ofOctets a 0)
  | a :: b :: rest => addBytes (add sum (Word.ofOctets a b)) rest

/-- The checksum of data is the complement of its sum, so that data and checksum add to `0xffff`. -/
def complement (sum : UInt16) : UInt16 := .ofNat (65535 - sum.toNat)

theorem toNat_add (a b : UInt16) :
    (add a b).toNat = (a.toNat + b.toNat) % 65536 + (a.toNat + b.toNat) / 65536 := by
  have := a.toNat_lt
  have := b.toNat_lt
  simp only [add, UInt16.toNat_ofNat']
  omega

theorem toNat_complement (a : UInt16) : (complement a).toNat = 65535 - a.toNat := by
  simp only [complement, UInt16.toNat_ofNat']
  omega

end Srv6Traffic.OnesSum
