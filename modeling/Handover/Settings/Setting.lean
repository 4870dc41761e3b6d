namespace Handover

inductive Setting where
  | scanAlwaysAvailable
  | p2pFactoryResetPending
  | p2pDeviceName
  | softApTimeoutEnabled
  | wakeupEnabled
  | scanThrottleEnabled
  | verboseLoggingEnabled
  deriving DecidableEq, Repr

namespace Setting

def all : List Setting :=
  [scanAlwaysAvailable, p2pFactoryResetPending, p2pDeviceName, softApTimeoutEnabled,
    wakeupEnabled, scanThrottleEnabled, verboseLoggingEnabled]

theorem mem_all (s : Setting) : s ∈ all := by
  cases s <;> decide

def name : Setting → String
  | scanAlwaysAvailable => "scan_always_available"
  | p2pFactoryResetPending => "p2p_factory_reset_pending"
  | p2pDeviceName => "p2p_device_name"
  | softApTimeoutEnabled => "soft_ap_timeout_enabled"
  | wakeupEnabled => "wakeup_enabled"
  | scanThrottleEnabled => "scan_throttle_enabled"
  | verboseLoggingEnabled => "verbose_logging_enabled"

def key : Setting → String
  | scanAlwaysAvailable => "wifi_scan_always_enabled"
  | p2pFactoryResetPending => "wifi_p2p_pending_factory_reset"
  | p2pDeviceName => "wifi_p2p_device_name"
  | softApTimeoutEnabled => "soft_ap_timeout_enabled"
  | wakeupEnabled => "wifi_wakeup_enabled"
  | scanThrottleEnabled => "wifi_scan_throttle_enabled"
  | verboseLoggingEnabled => "wifi_verbose_logging_enabled"

def ofName? (s : String) : Option Setting :=
  all.find? fun x => x.name == s

inductive Kind where
  | flag (default : Bool)
  | name
  deriving DecidableEq, Repr

def kind : Setting → Kind
  | scanAlwaysAvailable => .flag false
  | p2pFactoryResetPending => .flag false
  | p2pDeviceName => .name
  | softApTimeoutEnabled => .flag true
  | wakeupEnabled => .flag false
  | scanThrottleEnabled => .flag true
  | verboseLoggingEnabled => .flag false

end Setting

end Handover
