import Srv6Traffic.Text.Hex

/-! Network addresses and their text. IPv4 is dotted decimal. IPv6 is written in groups of sixteen
bits, where the first longest run of at least two zero groups shrinks to `::`; an address that maps
an IPv4 one shows that one in dotted decimal. -/
namespace Srv6Traffic

structure Ipv4Address where
  octets : Octets 4
  deriving DecidableEq

structure Ipv6Address where
  octets : Octets 16
  deriving DecidableEq

def dotted (octets : Bytes) : String := ".".intercalate (octets.map fun b => toString b.toNat)

namespace Ipv4Address

def ofOctets (a b c d : UInt8) : Ipv4Address := ⟨[a, b, c, d], rfl⟩
def render (address : Ipv4Address) : String := dotted address.octets.val

end Ipv4Address

namespace Ipv6Address

def ofGroups (a b c d e f g h : UInt16) : Ipv6Address :=
  ⟨[a, b, c, d, e, f, g, h].flatMap Word.encode, rfl⟩

def groups (address : Ipv6Address) : List UInt16 := Word.decodeAll address.octets.val

def zerosFrom (groups : List UInt16) (start : Nat) : Nat :=
  ((groups.drop start).takeWhile (· = 0)).length

/-- Start and length of the first longest run of zero groups. -/
def longestZeros (groups : List UInt16) : Nat × Nat :=
  (List.range groups.length).foldl
    (fun best start =>
      if best.2 < zerosFrom groups start then (start, zerosFrom groups start) else best)
    (0, 0)

def joined (groups : List UInt16) : String :=
  ":".intercalate (groups.map fun g => .ofList (Hex.number g.toNat))

def render (address : Ipv6Address) : String :=
  if address.octets.val.take 12 = List.replicate 10 0 ++ [0xff, 0xff] then
    "::ffff:" ++ dotted (address.octets.val.drop 12)
  else
    let (start, length) := longestZeros address.groups
    if length < 2 then joined address.groups
    else joined (address.groups.take start) ++ "::" ++ joined (address.groups.drop (start + length))

end Ipv6Address
end Srv6Traffic
