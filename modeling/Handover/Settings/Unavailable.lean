import Handover.Text.Basic

namespace Handover

inductive Unavailable where
  | connect (serial : Text) (text : String)
  | reading (key text : String)
  | source (text : String)
  deriving DecidableEq, Repr

def Unavailable.message : Unavailable → Text
  | connect serial text => .proper "Cannot connect to device " ++ serial ++ .proper (": " ++ text)
  | reading key text => s!"Cannot read setting {key}: {text}"
  | source text => text

end Handover
