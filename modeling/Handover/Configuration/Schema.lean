import Handover.Fault
import Handover.Value.Order

namespace Handover

structure DeviceSection where
  serial : Value := .null

structure LegacyStoreSection where
  path : Value := .text "legacy_store.yaml"

structure TransferSection where
  outputDirectory : Value := .text "transfer"
  fileName : Value := .text "migration.bin"

structure LoggingSection where
  debug : Value := .bool false
  richText : Value := .bool true

structure Configuration where
  device : DeviceSection := {}
  legacyStore : LegacyStoreSection := {}
  transfer : TransferSection := {}
  logging : LoggingSection := {}

namespace Configuration

structure FieldOf (α : Type) where
  name : String
  put : Value → α → α

def deviceFields : List (FieldOf DeviceSection) :=
  [⟨"serial", fun v s => { s with serial := v }⟩]

def legacyStoreFields : List (FieldOf LegacyStoreSection) :=
  [⟨"path", fun v s => { s with path := v }⟩]

def transferFields : List (FieldOf TransferSection) :=
  [⟨"output_dir", fun v s => { s with outputDirectory := v }⟩,
    ⟨"file_name", fun v s => { s with fileName := v }⟩]

def loggingFields : List (FieldOf LoggingSection) :=
  [⟨"debug", fun v s => { s with debug := v }⟩, ⟨"rich_text", fun v s => { s with richText := v }⟩]

def set? (fields : List (FieldOf α)) (name : String) (v : Value) (s : α) : Option α :=
  (fields.find? fun f => f.name == name).map fun f => f.put v s

def setAll (fields : List (FieldOf α)) : α → List (Value × Value) → Except ShapeFault α
  | s, [] => .ok s
  | s, (.text (.proper name), v) :: rest =>
      match set? fields name v s with
      | some s => setAll fields s rest
      | none => .error .mismatch
  | _, _ :: _ => .error .mismatch

def readSection (fields : List (FieldOf α)) (default : α) : Option Value → Except ShapeFault α
  | none => .ok default
  | some (.map es) => setAll fields default es
  | some _ => .error .mismatch

/-- The configuration that a document gives. Unknown sections are passed over. -/
def ofValue : Value → Except ShapeFault Configuration
  | .map es => do
      let device ← readSection deviceFields {} (Value.field? "device" es)
      let legacyStore ← readSection legacyStoreFields {} (Value.field? "legacy_store" es)
      let transfer ← readSection transferFields {} (Value.field? "transfer" es)
      let logging ← readSection loggingFields {} (Value.field? "logging" es)
      return { device, legacyStore, transfer, logging }
  | v => .error (.noFields v.typeName)

def fields (es : List (String × Value)) : Value :=
  .map (es.map fun e => (.text e.1, e.2))

def deviceEntries (s : DeviceSection) : List (String × Value) :=
  [("serial", s.serial)]

def legacyStoreEntries (s : LegacyStoreSection) : List (String × Value) :=
  [("path", s.path)]

def transferEntries (s : TransferSection) : List (String × Value) :=
  [("output_dir", s.outputDirectory), ("file_name", s.fileName)]

def loggingEntries (s : LoggingSection) : List (String × Value) :=
  [("debug", s.debug), ("rich_text", s.richText)]

def sections (c : Configuration) : List (String × Value) :=
  [("device", fields (deviceEntries c.device)),
    ("legacy_store", fields (legacyStoreEntries c.legacyStore)),
    ("transfer", fields (transferEntries c.transfer)),
    ("logging", fields (loggingEntries c.logging))]

def toValue (c : Configuration) : Value :=
  fields c.sections

def set (c : Configuration) (sectionName field : String) (v : Value) : Configuration :=
  match sectionName with
  | "device" => { c with device := (set? deviceFields field v c.device).getD c.device }
  | "legacy_store" =>
      { c with legacyStore := (set? legacyStoreFields field v c.legacyStore).getD c.legacyStore }
  | "transfer" => { c with transfer := (set? transferFields field v c.transfer).getD c.transfer }
  | "logging" => { c with logging := (set? loggingFields field v c.logging).getD c.logging }
  | _ => c

theorem ofValue_toValue (c : Configuration) : ofValue c.toValue = .ok c := by
  rfl

end Configuration

end Handover
