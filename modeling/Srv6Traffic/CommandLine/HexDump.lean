import Srv6Traffic.Text.Hex

/-! Octets in lines of sixteen, each behind its offset. -/
namespace Srv6Traffic.HexDump

def lineLength : Nat := 16

/-- The octets in pieces of a line's length; the last piece may be shorter. -/
def chunks : Bytes → List Bytes
  | [] => []
  | b :: rest => (b :: rest).take lineLength :: chunks ((b :: rest).drop lineLength)
  termination_by bytes => bytes.length
  decreasing_by
    simp only [List.length_drop, List.length_cons, lineLength]
    omega

def line (offset : Nat) (bytes : Bytes) : List Char :=
  Hex.padded 4 offset ++ (' ' :: ' ' :: [' '].intercalate (bytes.map Hex.octet))

def lines (bytes : Bytes) : List String :=
  (chunks bytes).mapIdx fun i chunk => .ofList (line (i * lineLength) chunk)

theorem flatten_chunks (bytes : Bytes) : (chunks bytes).flatten = bytes := by
  fun_induction chunks bytes with
  | case1 => rfl
  | case2 b rest ih => rw [List.flatten_cons, ih, List.take_append_drop]

end Srv6Traffic.HexDump
