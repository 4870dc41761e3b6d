import Handover.Fault
import Handover.Settings.Provider
import Handover.Snapshot.Config

namespace Handover

structure Source (σ : Type) where
  loadConfig : Action σ Fault (Option ConfigSnapshot)
  loadSettings : Provider σ → Action σ Fault SettingsSnapshot
  commit : Action σ Fault Unit

namespace Source

variable {σ : Type}

/-- Nothing to take over but the live settings. -/
def live : Source σ where
  loadConfig := pure none
  loadSettings settings := settings.load.mapError .unavailable
  commit := pure ()

end Source

end Handover
