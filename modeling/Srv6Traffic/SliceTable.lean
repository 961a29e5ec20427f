import Srv6Traffic.Packet.Codec

/-! A growing table of slices, numbered as they come, with the shared buffers that more slices can
be cut from. Commands act on it one by one; each answers with what it made or found. -/
namespace Srv6Traffic

structure SliceTable where
  slots : List Slice := []
  buffers : List SharedBuffer := []
  allocated : Nat := 0

namespace SliceTable

inductive Command where
  | ofBytes (bytes : Bytes)
  | ofWriter (bytes : Bytes) (start stop : Nat)
  | share (bytes : Bytes) (start stop : Nat)
  | window (buffer start stop : Nat)
  | popFront (slot n : Nat)
  | clone (slot : Nat)
  | compare (slot other : Nat)
  | decodeRouting (slot : Nat)
  | decodePacket (slot : Nat)

inductive Answer where
  | added (slot : Nat)
  | shared
  | compared (equal shares : Bool)
  | routing (header : Header.SegmentRouting)
  | packet (packet : Packet)

inductive Refusal where
  | outOfRange
  | undecodable (field : Field)
  | badMarks
  | noSuchSlot
  deriving DecidableEq

def add (t : SliceTable) (s : Slice) : Except Refusal Answer × SliceTable :=
  (.ok (.added t.slots.length), { t with slots := t.slots ++ [s] })

/-- Gives a buffer that no slice has yet the next serial number. -/
def allocate (t : SliceTable) (writer : Writer) : SharedBuffer × SliceTable :=
  (⟨t.allocated, writer⟩, { t with allocated := t.allocated + 1 })

def decode {α : Type} (t : SliceTable) (slot : Nat) (decoder : Decoder α) :
    Except Refusal α × SliceTable :=
  match t.slots[slot]? with
  | none => (.error .noSuchSlot, t)
  | some s =>
    match decoder s with
    | .ok value s => (.ok value, { t with slots := t.slots.set slot s })
    | .error field s => (.error (.undecodable field), { t with slots := t.slots.set slot s })

def step (t : SliceTable) : Command → Except Refusal Answer × SliceTable
  | .ofBytes bytes =>
    let (buffer, t) := t.allocate (.full bytes)
    t.add (.whole buffer)
  | .ofWriter bytes start stop =>
    match Writer.ofBytes? bytes start stop with
    | none => (.error .badMarks, t)
    | some writer =>
      let (buffer, t) := t.allocate writer
      t.add (.whole buffer)
  | .share bytes start stop =>
    match Writer.ofBytes? bytes start stop with
    | none => (.error .badMarks, t)
    | some writer =>
      let (buffer, t) := t.allocate writer
      (.ok .shared, { t with buffers := t.buffers ++ [buffer] })
  | .window buffer start stop =>
    match t.buffers[buffer]? with
    | none => (.error .noSuchSlot, t)
    | some buffer =>
      match Slice.window? buffer start stop with
      | none => (.error .outOfRange, t)
      | some s => t.add s
  | .popFront slot n =>
    match t.slots[slot]? with
    | none => (.error .noSuchSlot, t)
    | some s =>
      match s.popFront? n with
      | none => (.error .outOfRange, t)
      | some (front, rest) => { t with slots := t.slots.set slot rest }.add front
  | .clone slot =>
    match t.slots[slot]? with
    | none => (.error .noSuchSlot, t)
    | some s => t.add s
  | .compare slot other =>
    match t.slots[slot]?, t.slots[other]? with
    | some a, some b => (.ok (.compared (a == b) (a.sharesBuffer b)), t)
    | _, _ => (.error .noSuchSlot, t)
  | .decodeRouting slot =>
    match t.decode slot Decoder.routing with
    | (.ok header, t) => (.ok (.routing header), t)
    | (.error e, t) => (.error e, t)
  | .decodePacket slot =>
    match t.decode slot Packet.decode with
    | (.ok packet, t) => (.ok (.packet packet), { t with slots := t.slots ++ [packet.payload] })
    | (.error e, t) => (.error e, t)

def run (t : SliceTable) : List Command → SliceTable
  | [] => t
  | command :: rest => run (t.step command).2 rest

end SliceTable
end Srv6Traffic
