/-! The Unicode property White_Space, and trimming of text by it. -/
namespace Srv6Traffic.Text

/-- The ranges of code points that have the property, both ends included. -/
def blankRanges : List (Nat × Nat) :=
  [(0x09, 0x0d), (0x20, 0x20), (0x85, 0x85), (0xa0, 0xa0), (0x1680, 0x1680), (0x2000, 0x200a),
    (0x2028, 0x2029), (0x202f, 0x202f), (0x205f, 0x205f), (0x3000, 0x3000)]

def isBlank (c : Char) : Bool :=
  blankRanges.any fun r => decide (r.1 ≤ c.toNat) && decide (c.toNat ≤ r.2)

def trimStart (text : List Char) : List Char := text.dropWhile isBlank
def trimEnd (text : List Char) : List Char := (text.reverse.dropWhile isBlank).reverse

/-- Takes the blanks off both ends and leaves those inside. -/
def trim (text : List Char) : List Char := trimEnd (trimStart text)

end Srv6Traffic.Text
