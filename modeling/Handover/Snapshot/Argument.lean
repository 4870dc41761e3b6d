import Handover.Settings.Setting

namespace Handover

inductive InvalidArgument where
  | networksMissing
  | networksOfType (type : String)
  | networkOfType (index : Nat) (type : String)
  | accessPointMissing
  | accessPointOfType (type : String)
  | flagOfType (setting : Setting) (type : String)
  | nameOfType (setting : Setting) (type : String)
  deriving DecidableEq, Repr

def InvalidArgument.message : InvalidArgument → String
  | networksMissing => "saved networks must not be None"
  | networksOfType type => s!"saved networks must be a sequence, got {type}"
  | networkOfType index type =>
      s!"saved network at index {index} is {type}, expected NetworkRecord"
  | accessPointMissing => "access point configuration must not be None"
  | accessPointOfType type =>
      s!"access point configuration is {type}, expected AccessPointRecord"
  | flagOfType setting type => s!"{setting.name} must be a bool, got {type}"
  | nameOfType setting type => s!"{setting.name} must be a str or None, got {type}"

inductive EntryFault where
  | unknown (name : String)
  | refused (e : InvalidArgument)
  deriving DecidableEq, Repr

end Handover
