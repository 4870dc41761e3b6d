import Handover.Record.Field
import Handover.Snapshot.Argument
import Handover.Value.Display

namespace Handover

structure SettingsSnapshot where
  scanAlwaysAvailable : Bool := false
  p2pFactoryResetPending : Bool := false
  p2pDeviceName : Option Text := none
  softApTimeoutEnabled : Bool := true
  wakeupEnabled : Bool := false
  scanThrottleEnabled : Bool := true
  verboseLoggingEnabled : Bool := false
  deriving DecidableEq, Repr

namespace SettingsSnapshot

def nameValue : Option Text → Value
  | none => .null
  | some t => .text t

def get (s : SettingsSnapshot) : Setting → Value
  | .scanAlwaysAvailable => .bool s.scanAlwaysAvailable
  | .p2pFactoryResetPending => .bool s.p2pFactoryResetPending
  | .p2pDeviceName => nameValue s.p2pDeviceName
  | .softApTimeoutEnabled => .bool s.softApTimeoutEnabled
  | .wakeupEnabled => .bool s.wakeupEnabled
  | .scanThrottleEnabled => .bool s.scanThrottleEnabled
  | .verboseLoggingEnabled => .bool s.verboseLoggingEnabled

def flagOf (setting : Setting) : Value → Except InvalidArgument Bool
  | .bool b => .ok b
  | v => .error (.flagOfType setting v.typeName)

def nameOf (setting : Setting) : Value → Except InvalidArgument (Option Text)
  | .null => .ok none
  | .text t => .ok (some t)
  | .derived _ t => .ok (some t)
  | v => .error (.nameOfType setting v.typeName)

def set (s : SettingsSnapshot) (setting : Setting) (v : Value) :
    Except InvalidArgument SettingsSnapshot :=
  match setting with
  | .scanAlwaysAvailable => (flagOf setting v).map fun b => { s with scanAlwaysAvailable := b }
  | .p2pFactoryResetPending =>
      (flagOf setting v).map fun b => { s with p2pFactoryResetPending := b }
  | .p2pDeviceName => (nameOf setting v).map fun n => { s with p2pDeviceName := n }
  | .softApTimeoutEnabled => (flagOf setting v).map fun b => { s with softApTimeoutEnabled := b }
  | .wakeupEnabled => (flagOf setting v).map fun b => { s with wakeupEnabled := b }
  | .scanThrottleEnabled => (flagOf setting v).map fun b => { s with scanThrottleEnabled := b }
  | .verboseLoggingEnabled => (flagOf setting v).map fun b => { s with verboseLoggingEnabled := b }

def differs (s : SettingsSnapshot) : Setting → Bool
  | .scanAlwaysAvailable => s.scanAlwaysAvailable
  | .p2pFactoryResetPending => s.p2pFactoryResetPending
  | .p2pDeviceName => s.p2pDeviceName.isSome
  | .softApTimeoutEnabled => !s.softApTimeoutEnabled
  | .wakeupEnabled => s.wakeupEnabled
  | .scanThrottleEnabled => !s.scanThrottleEnabled
  | .verboseLoggingEnabled => s.verboseLoggingEnabled

def changed (s : SettingsSnapshot) : List Setting :=
  Setting.all.filter s.differs

def setAll (given : Setting → Option Value) :
    SettingsSnapshot → List Setting → Except InvalidArgument SettingsSnapshot
  | s, [] => .ok s
  | s, setting :: rest =>
      match given setting with
      | none => setAll given s rest
      | some v =>
          match s.set setting v with
          | .ok s => setAll given s rest
          | .error e => .error e

def ofEntries (entries : List (String × Value)) : Except EntryFault SettingsSnapshot :=
  match entries.find? fun e => (Setting.ofName? e.1).isNone with
  | some (name, _) => .error (.unknown name)
  | none =>
      match setAll (fun s => Field.last? s.name entries) {} Setting.all with
      | .ok s => .ok s
      | .error e => .error (.refused e)

def display (s : SettingsSnapshot) : String :=
  "SettingsMigrationSnapshot(" ++
    joined ", " (Setting.all.map fun x => x.name ++ "=" ++ (s.get x).quoted) ++ ")"

structure Builder where
  values : SettingsSnapshot := {}
  deriving DecidableEq, Repr

namespace Builder

def ofSnapshot (s : SettingsSnapshot) : Builder :=
  ⟨s⟩

def set (b : Builder) (setting : Setting) (v : Value) : Except InvalidArgument Builder :=
  match b.values.set setting v with
  | .ok s => .ok ⟨s⟩
  | .error e => .error e

def build (b : Builder) : SettingsSnapshot :=
  b.values

end Builder

end SettingsSnapshot

end Handover
