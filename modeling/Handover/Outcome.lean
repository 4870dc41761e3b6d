import Handover.Snapshot.Config
import Handover.Snapshot.Settings

namespace Handover

structure Outcome where
  config : Option ConfigSnapshot := none
  settings : Option SettingsSnapshot := none
  errors : List String := []
  deriving DecidableEq, Repr

namespace Outcome

def needsConfigMigration (o : Outcome) : Bool :=
  o.config.isSome

def networksToMigrate (o : Outcome) : List NetworkRecord :=
  (o.config.bind (·.savedNetworks)).getD []

def accessPoint (o : Outcome) : Option AccessPointRecord :=
  o.config.bind (·.accessPoint)

def changedSettings (o : Outcome) : List Setting :=
  match o.settings with
  | none => []
  | some s => s.changed

end Outcome

end Handover
