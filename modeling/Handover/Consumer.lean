import Handover.Outcome
import Handover.Source
import Handover.Transfer.Framing

namespace Handover

/-- The data of this boot can be claimed once; `site` is the state that sources work on. -/
structure Boot (σ : Type) where
  consumed : Bool := false
  site : σ

structure Consumer (σ : Type) where
  source : Option (Source σ)
  environment : Option (Provider σ)

namespace Consumer

variable {σ : Type}

def claim : Action (Boot σ) Fault Unit :=
  fun b => if b.consumed then ⟨.error .consumed, b, []⟩ else ⟨.ok (), { b with consumed := true }, []⟩

def onSite (x : Action σ Fault α) : Action (Boot σ) Fault α :=
  x.zoom Boot.site fun s b => { b with site := s }

def countText (s : ConfigSnapshot) : String :=
  match s.savedNetworks with
  | none => "Saved networks: nothing to migrate"
  | some rs => s!"Saved networks to migrate: {rs.length}"

def accessPointText (s : ConfigSnapshot) : String :=
  if s.accessPoint.isSome then "Soft AP configuration to migrate"
  else "Soft AP configuration: nothing to migrate"

def logConfig (config : Option ConfigSnapshot) : Action (Boot σ) Fault Unit :=
  match config with
  | none => Action.log .info "No config store migration needed"
  | some s => do
      Action.log .info (countText s)
      Action.log .info (accessPointText s)

def settingsText (s : SettingsSnapshot) : String :=
  if s.changed.isEmpty then "All settings at defaults"
  else "Settings differing from defaults: " ++ joined ", " (s.changed.map Setting.name)

def logSettings (s : SettingsSnapshot) : Action (Boot σ) Fault Unit :=
  Action.log .info (settingsText s)

/-- Loads the config, then the settings; commits the source only after both. -/
def pull (source : Source σ) (environment : Provider σ) : Action (Boot σ) Fault Outcome := do
  claim
  let config ← onSite source.loadConfig
  logConfig config
  let settings ← onSite (source.loadSettings environment)
  logSettings settings
  onSite source.commit
  pure { config, settings := some settings }

def run (c : Consumer σ) : Action (Boot σ) Fault Outcome :=
  match c.source, c.environment with
  | some source, some environment => pull source environment
  | _, _ => Action.fail .unready

def receiveConfig (bs : Bytes) : Action (Boot σ) Fault (Option ConfigSnapshot × List String) :=
  match Payload.decodeConfig bs with
  | .ok config => do
      logConfig config
      pure (config, [])
  | .error e => do
      Action.log .error ("Dropping config migration, malformed transfer data: " ++ e.message)
      pure (none, ["config: " ++ e.message])

def receiveSettings (bs : Bytes) : Action (Boot σ) Fault (Option SettingsSnapshot × List String) :=
  match Payload.decodeSettings bs with
  | .ok settings => do
      logSettings settings
      pure (some settings, [])
  | .error e => do
      Action.log .error ("Dropping settings migration, malformed transfer data: " ++ e.message)
      pure (none, ["settings: " ++ e.message])

def receive (config settings : Bytes) : Action (Boot σ) Fault Outcome := do
  claim
  let (config, configErrors) ← receiveConfig config
  let (settings, settingsErrors) ← receiveSettings settings
  pure { config, settings, errors := configErrors ++ settingsErrors }

end Consumer

end Handover
