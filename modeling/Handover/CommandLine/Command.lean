import Handover.CommandLine.Report
import Handover.Configuration.Manager
import Handover.Consumer
import Handover.LegacyStore
import Handover.Settings.Device
import Handover.Settings.KeyValueStore
import Handover.Transfer.File
import Handover.Yaml.Document

namespace Handover.CommandLine

structure Context where
  host : Host
  device : Device

inductive Live where
  | memory (s : KeyValueStore)
  | device (link : DeviceLink)

def Live.provider (d : Device) (serial : Value) : Provider Live where
  getString key live :=
    match live with
    | .memory s => ⟨.ok (s.get? key), .memory s, []⟩
    | .device link =>
        match (d.provider serial).getString key link with
        | ⟨a, link, journal⟩ => ⟨a, .device link, journal⟩

def openLive (host : Host) (t : FileTree) (settingsFile : Option String) : Except Fault Live :=
  match settingsFile.filter (· != "") with
  | none => .ok (.device {})
  | some file =>
      match t.statText host.location file with
      | .error e => .error (.file e)
      | .ok .directory => .error (.file .isDirectory)
      | .ok (.file bs) =>
          match Yaml.ofBytes bs with
          | .error e => .error (.document e)
          | .ok v =>
              match KeyValueStore.ofValue v with
              | .ok s => .ok (.memory s)
              | .error e => .error e

def orElse (given : Option String) (configured : Value) : Value :=
  match given.filter (· != "") with
  | some s => .text s
  | none => configured

def readSettings (c : Context) (t : FileTree) (serial : Value) (settingsFile : Option String) :
    Action Unit Fault SettingsSnapshot :=
  fun s =>
    match openLive c.host t settingsFile with
    | .error e => ⟨.error e, s, []⟩
    | .ok live =>
        match ((Live.provider c.device serial).load.mapError Fault.unavailable) live with
        | ⟨a, _, journal⟩ => ⟨a, s, journal⟩

def settings (c : Context) (config : Configuration) (device settingsFile : Option String) :
    Action FileTree Ending Unit := do
  let t ← Action.get
  let serial := orElse device config.device.serial
  match ← Action.attempt ((readSettings c t serial settingsFile).zoom (fun _ => ()) fun _ t => t) with
  | .ok s => showSettings (some s)
  | .error e => do
      tell "red" "Error reading settings: " e.message
      Action.fail (.exit 1)

structure ExportSite where
  site : StoreSite
  live : Live

structure ExportPaths where
  store : Path
  output : Path

def exportPaths (c : Context) (t : FileTree) (config : Configuration)
    (store output : Option String) : Except Fault ExportPaths := do
  let store ← Host.pathOf (orElse store config.legacyStore.path)
  let store ← c.host.resolve t store {}
  match output.filter (· != "") with
  | some s => return ⟨store, Path.ofText s⟩
  | none => do
      let directory ← Host.pathOf config.transfer.outputDirectory
      let directory ← c.host.resolve t directory { createIfMissing := true }
      let name ← Host.pathOf config.transfer.fileName
      return ⟨store, directory.join name⟩

def storeSource (cwd : Location) : Source ExportSite :=
  LegacyStore.source cwd ExportSite.site (fun s e => { e with site := s }) Source.live

def onTree (x : Action FileTree Fault α) : Action ExportSite Fault α :=
  x.zoom (fun e => e.site.tree) fun t e => { e with site := { e.site with tree := t } }

def handOver (cwd : Location) (environment : Provider ExportSite) (output : Path) :
    Action ExportSite Fault (Option ConfigSnapshot × SettingsSnapshot) := do
  let config ← (storeSource cwd).loadConfig
  let settings ← (storeSource cwd).loadSettings environment
  onTree (TransferFile.write cwd output config settings)
  pure (config, settings)

/-- Whether a failed export is reported; other faults end the program. -/
def isReported : Fault → Bool
  | .file _ => true
  | .document .malformed => true
  | e => e.isMigration

def reportFailure (e : Fault) : Action σ Ending α :=
  if isReported e then do
    tell "red" "Migration failed: " e.message
    Action.fail (.exit 1)
  else Action.fail (.raised e)

/-- Removes the store; that it cannot be removed is only told. -/
def removeStore (cwd : Location) : Action ExportSite Ending Unit := do
  match ← Action.attempt (storeSource cwd).commit with
  | .ok () => pure ()
  | .error e =>
      match e with
      | .file _ =>
          tell "yellow" "Transfer file written but legacy store not removed: " e.message
      | e => Action.fail (.raised e)

/-- An export whose paths and settings are known. The store goes away only once the transfer file is
written. -/
def exportFrom (cwd : Location) (environment : Provider ExportSite) (output : Path) :
    Action ExportSite Ending Unit := do
  match ← Action.attempt (handOver cwd environment output) with
  | .error e => reportFailure e
  | .ok (config, settings) => do
      removeStore cwd
      Action.log .info ("Transfer file written to " ++ output.text)
      showConfig config
      showSettings (some settings)

def onExportSite (store : Path) (live : Live) (x : Action ExportSite Ending Unit) :
    Action FileTree Ending Unit :=
  fun t =>
    match x ⟨⟨{ path := store }, t⟩, live⟩ with
    | ⟨a, e, journal⟩ => ⟨a, e.site.tree, journal⟩

def exportTo (c : Context) (config : Configuration) (store device settingsFile output : Option String) :
    Action FileTree Ending Unit := do
  let t ← Action.get
  match exportPaths c t config store output with
  | .error e => Action.fail (.raised e)
  | .ok paths =>
      match openLive c.host t settingsFile with
      | .error e => reportFailure e
      | .ok live =>
          let serial := orElse device config.device.serial
          let environment := (Live.provider c.device serial).within ExportSite.live
            fun l e => { e with live := l }
          onExportSite paths.store live (exportFrom c.host.location environment paths.output)

def inspect (c : Context) (file : String) : Action FileTree Ending Unit := do
  let t ← Action.get
  match TransferFile.read t c.host.location (Path.ofText file) with
  | .ok (config, settings) => do
      showConfig config
      showSettings (some settings)
  | .error (.malformed e) => do
      tell "red" "Malformed transfer file: " e.message
      Action.fail (.exit 1)
  | .error e => Action.fail (.raised e)

def takeOver (config settings : Bytes) : Action FileTree Ending Outcome :=
  ((Consumer.receive config settings).mapError Ending.raised).zoom
    (fun t => { site := t : Boot FileTree }) fun b _ => b.site

/-- The outcome of a transfer file; one that cannot be split leaves nothing to take over. -/
def outcomeOf (c : Context) (file : String) : Action FileTree Ending Outcome := do
  let t ← Action.get
  match TransferFile.readPayloads t c.host.location (Path.ofText file) with
  | .ok (config, settings) => takeOver config settings
  | .error (.malformed e) => do
      Action.log .error ("Proceeding without migrated data: " ++ e.message)
      pure { errors := ["transfer file: " ++ e.message] }
  | .error e => Action.fail (.raised e)

def run (c : Context) (file : String) : Action FileTree Ending Unit := do
  let outcome ← outcomeOf c file
  showOutcome outcome

end Handover.CommandLine
