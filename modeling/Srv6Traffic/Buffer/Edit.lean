import Srv6Traffic.Buffer.Writer

/-! Changes to a writer as data, so that a history of them can be told and replayed. -/
namespace Srv6Traffic.Writer

inductive Edit where
  | append (bytes : Bytes)
  | prepend (bytes : Bytes)
  | growFront (n : Nat)
  | growBack (n : Nat)
  | putFront (offset : Nat) (bytes : Bytes)
  | putData (offset : Nat) (bytes : Bytes)
  | putBack (offset : Nat) (bytes : Bytes)
  deriving DecidableEq

/-- Why an edit is refused: the data may not grow that far, or the write leaves its region. -/
inductive EditError where
  | notEnoughSpace
  | outOfBounds
  deriving DecidableEq

def edit? (w : Writer) : Edit → Option Writer
  | .append bytes => w.append? bytes
  | .prepend bytes => w.prepend? bytes
  | .growFront n => w.growFront? n
  | .growBack n => w.growBack? n
  | .putFront offset bytes => w.putFront? offset bytes
  | .putData offset bytes => w.putData? offset bytes
  | .putBack offset bytes => w.putBack? offset bytes

def Edit.refusal : Edit → EditError
  | .append _ | .prepend _ | .growFront _ | .growBack _ => .notEnoughSpace
  | .putFront _ _ | .putData _ _ | .putBack _ _ => .outOfBounds

/-- A refused edit leaves the writer as it is. -/
def run : Writer → List Edit → Writer
  | w, [] => w
  | w, e :: edits => run ((w.edit? e).getD w) edits

end Srv6Traffic.Writer
