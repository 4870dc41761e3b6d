import Handover.Files.Tree
import Handover.Settings.Unavailable
import Handover.Snapshot.Argument
import Handover.Transfer.Malformed
import Handover.Value.Display
import Handover.Yaml.Fault

namespace Handover

inductive StoreFault where
  | unreadable
  | notMapping (type : String)
  /-- A refused record, or an entry that does not give its fields by name. -/
  | invalidRecord (e : Option RecordFault)
  | settingsNotMapping (type : String)
  | unknownSettings (names : List String)
  deriving DecidableEq, Repr

def StoreFault.message (path : String) : StoreFault → String
  | unreadable => s!"Cannot parse legacy store {path}: [YAMLError]"
  | notMapping type => s!"Legacy store {path} must be a mapping, got {type}"
  | invalidRecord none => s!"Invalid record in legacy store {path}: [TypeError]"
  | invalidRecord (some e) => s!"Invalid record in legacy store {path}: {e.message}"
  | settingsNotMapping type => s!"Legacy store settings must be a mapping, got {type}"
  | unknownSettings names => "Unknown settings in legacy store: [" ++ joined ", " names ++ "]"

inductive ShapeFault where
  | noEntries (type : String)
  | noFields (type : String)
  | mismatch
  deriving DecidableEq, Repr

def ShapeFault.message : ShapeFault → String
  | noEntries type => s!"'{type}' object has no attribute 'items'"
  | noFields type => s!"'{type}' object has no attribute 'get'"
  | mismatch => "[TypeError]"

/-- Why an operation fails. The wording of file faults and of most faults of documents is left open: a
tag in brackets stands for it. -/
inductive Fault where
  | argument (e : InvalidArgument)
  | malformed (e : Malformed)
  | unavailable (e : Unavailable)
  | store (path : String) (e : StoreFault)
  | consumed
  | unready
  | width
  /-- A text that has no UTF-8 form was to be written. -/
  | encoding (e : EncodingFault)
  /-- A record with such a text was to be written. -/
  | serialization (e : EncodingFault)
  | unprintable
  | file (e : FileFault)
  | configMissing (path : String)
  | pathMissing (path : String)
  | pathMissingEverywhere (working project : String)
  | namelessPath
  | unknownUser
  | document (e : Yaml.Fault)
  | shape (e : ShapeFault)
  deriving DecidableEq, Repr

namespace Fault

def message : Fault → Text
  | argument e => e.message
  | malformed e => e.message
  | unavailable e => e.message
  | store path e => e.message path
  | consumed => "migration data was already consumed for this boot"
  | unready => "run() needs both a migration source and an environment"
  | width => "number does not fit its width"
  | encoding e => e.message
  | serialization e => Parcel.serializationMessage e
  | unprintable => "[UnicodeEncodeError]"
  | file _ => "[OSError]"
  | configMissing path => s!"Config file not found: {path}"
  | pathMissing path => s!"Path not found: {path}"
  | pathMissingEverywhere working project =>
      s!"Path not found in:\n  - Working dir: {working}\n  - Project dir: {project}"
  | namelessPath => "path has an empty name"
  | unknownUser => "Could not determine home directory."
  | document e => e.message
  | shape e => e.message

def violations? : Fault → Option (List Violation)
  | malformed e => e.violations?
  | store _ (.invalidRecord (some e)) => some e.violations
  | _ => none

def isMigration : Fault → Bool
  | argument _ => true
  | malformed _ => true
  | unavailable _ => true
  | store _ _ => true
  | consumed => true
  | unready => true
  | _ => false

end Fault

end Handover
