import Srv6Traffic.Template

/-! Streams of traffic: one frame, and how often it is sent. -/
namespace Srv6Traffic

inductive TransmitMode where
  | continuous
  deriving DecidableEq

def TransmitMode.name : TransmitMode → String
  | .continuous => "Continuous"

structure Stream where
  frame : Frame
  mode : TransmitMode

end Srv6Traffic
