import Handover.Action
import Handover.Number.Integer
import Handover.Settings.Unavailable
import Handover.Snapshot.Settings
import Handover.Text.Quoted

namespace Handover

structure Provider (σ : Type) where
  getString : String → Action σ Unavailable (Option Text)

namespace Provider

variable {σ : Type}

def notInteger (key : String) (raw : Text) (default : Int) : String :=
  s!"Setting {key} has non-integer value " ++ raw.quoted ++ s!", using default {default}"

def getInt (p : Provider σ) (key : String) (default : Int) : Action σ Unavailable Int := do
  match ← p.getString key with
  | none => pure default
  | some raw =>
      match raw.proper?.bind Number.ofText? with
      | some n => pure n
      | none => do
          Action.log .warning (notInteger key raw default)
          pure default

def getFlag (p : Provider σ) (s : Setting) (default : Bool) : Action σ Unavailable Bool := do
  let n ← p.getInt s.key (if default then 1 else 0)
  pure (n == 1)

def load (p : Provider σ) : Action σ Unavailable SettingsSnapshot := do
  let scanAlwaysAvailable ← p.getFlag .scanAlwaysAvailable false
  let p2pFactoryResetPending ← p.getFlag .p2pFactoryResetPending false
  let p2pDeviceName ← p.getString Setting.p2pDeviceName.key
  let softApTimeoutEnabled ← p.getFlag .softApTimeoutEnabled true
  let wakeupEnabled ← p.getFlag .wakeupEnabled false
  let scanThrottleEnabled ← p.getFlag .scanThrottleEnabled true
  let verboseLoggingEnabled ← p.getFlag .verboseLoggingEnabled false
  let snapshot : SettingsSnapshot :=
    { scanAlwaysAvailable, p2pFactoryResetPending, p2pDeviceName, softApTimeoutEnabled,
      wakeupEnabled, scanThrottleEnabled, verboseLoggingEnabled }
  Action.log .debug ("Loaded settings snapshot: " ++ snapshot.display)
  pure snapshot

def within {τ : Type} (part : τ → σ) (put : σ → τ → τ) (p : Provider σ) : Provider τ :=
  ⟨fun key => Action.zoom part put (p.getString key)⟩

end Provider

end Handover
