import Srv6Traffic.Stream.Profile

/-! The End.DX4 profile. All its streams send one frame, built from a template to the packet length
asked for, less the frame check sequence that the network card adds. Direction and unknown options
play no part. -/
namespace Srv6Traffic.EndDx4

def name : String := "srv6_end_dx4"
def checkSequenceSize : Int64 := 4

def lengthWithoutCheck (length : Int64) : Int64 := Signed.saturatingSub length checkSequenceSize

/-- As many streams of one shared frame as asked for. The frame is built even if none is. -/
def createStreams (t : Template) (serial : Nat) (length : Int64) (count : Nat) :
    Traced (Except ProfileError (List Stream)) := do
  match ← t.build serial length with
  | .ok frame => return .ok (.replicate count ⟨frame, .continuous⟩)
  | .error cause => return .error (.template cause)

def ignored (options : StreamOptions) : List Record :=
  options.extra.entries.map fun entry => .optionIgnored name entry.1 entry.2

def streams (t : Template) (serial : Nat) (options : StreamOptions) :
    Traced (Except ProfileError (List Stream)) := do
  Traced.record (ignored options)
  createStreams t serial (lengthWithoutCheck options.packetLength) options.streamCount

def profile (t : Template) : Profile := ⟨name, streams t⟩

/-- The profile of the standard template, made anew for each caller. -/
def make : Profile.Constructor := fun _ => profile {}

end Srv6Traffic.EndDx4
