import Handover.Parcel
import Handover.Record.Rule
import Handover.Text.Quoted

namespace Handover

inductive Malformed where
  | parcel (e : Parcel.Fault)
  | magic (found : Bytes)
  | version (found : Nat)
  | kind (found expected : Nat)
  | nullRecord (what : String)
  | record (what : String) (e : RecordFault)
  | nullPayload
  deriving DecidableEq, Repr

namespace Malformed

def magicBytes : Bytes := [0x57, 0x46, 0x4D, 0x47]

def message : Malformed → String
  | parcel e => e.message
  | magic found =>
      "bad magic " ++ Text.Quoted.bytes found ++ ", expected " ++ Text.Quoted.bytes magicBytes
  | version found => s!"unsupported format version {found}"
  | kind found expected => s!"payload kind {found} does not match expected kind {expected}"
  | nullRecord what => s!"{what} payload is null"
  | record what e => s!"invalid {what}: {e.message}"
  | nullPayload => "transfer file has a null payload"

def violations? : Malformed → Option (List Violation)
  | record _ e => some e.violations
  | _ => none

end Malformed

end Handover
