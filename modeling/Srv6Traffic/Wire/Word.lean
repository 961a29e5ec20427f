/-! Octet strings and the sixteen-bit words that headers are made of. A word goes over the wire
high octet first, so its value is `256 * high + low`; both directions are stated over `Nat`. -/
namespace Srv6Traffic

abbrev Bytes := List UInt8

/-- The octet strings of one fixed length. -/
abbrev Octets (n : Nat) := { bytes : Bytes // bytes.length = n }

namespace Word

def ofOctets (high low : UInt8) : UInt16 := .ofNat (256 * high.toNat + low.toNat)
def high (w : UInt16) : UInt8 := .ofNat (w.toNat / 256)
def low (w : UInt16) : UInt8 := .ofNat w.toNat
def encode (w : UInt16) : Bytes := [high w, low w]

/-- The words of an octet string; an odd last octet is left out. -/
def decodeAll : Bytes → List UInt16
  | a :: b :: rest => ofOctets a b :: decodeAll rest
  | _ => []

theorem toNat_ofOctets (a b : UInt8) : (ofOctets a b).toNat = 256 * a.toNat + b.toNat := by
  have := a.toNat_lt
  have := b.toNat_lt
  simp only [ofOctets, UInt16.toNat_ofNat']
  omega

@[simp] theorem ofOctets_high_low (w : UInt16) : ofOctets (high w) (low w) = w := by
  have := w.toNat_lt
  apply UInt16.toNat_inj.1
  simp only [toNat_ofOctets, high, low, UInt8.toNat_ofNat']
  omega

@[simp] theorem high_ofOctets (a b : UInt8) : high (ofOctets a b) = a := by
  have := a.toNat_lt
  have := b.toNat_lt
  apply UInt8.toNat_inj.1
  simp only [high, toNat_ofOctets, UInt8.toNat_ofNat']
  omega

@[simp] theorem low_ofOctets (a b : UInt8) : low (ofOctets a b) = b := by
  have := b.toNat_lt
  apply UInt8.toNat_inj.1
  simp only [low, toNat_ofOctets, UInt8.toNat_ofNat']
  omega

@[simp] theorem length_encode (w : UInt16) : (encode w).length = 2 := rfl

end Word
end Srv6Traffic
