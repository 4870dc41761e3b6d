import Handover.Text.Basic

namespace Handover

inductive SecurityType where
  | open
  | wep
  | wpa2Psk
  | wpa3Sae
  | wpa2Eap
  | owe
  deriving DecidableEq, Repr

namespace SecurityType

def all : List SecurityType := [.open, .wep, .wpa2Psk, .wpa3Sae, .wpa2Eap, .owe]

def label : SecurityType → String
  | .open => "open"
  | .wep => "wep"
  | .wpa2Psk => "wpa2-psk"
  | .wpa3Sae => "wpa3-sae"
  | .wpa2Eap => "wpa2-eap"
  | .owe => "owe"

end SecurityType

inductive MeteredOverride where
  | none
  | metered
  | notMetered
  deriving DecidableEq, Repr

namespace MeteredOverride

def all : List MeteredOverride := [.none, .metered, .notMetered]

def label : MeteredOverride → String
  | .none => "none"
  | .metered => "metered"
  | .notMetered => "not-metered"

end MeteredOverride

inductive Band where
  | ghz2
  | ghz5
  | ghz6
  | any
  deriving DecidableEq, Repr

namespace Band

def all : List Band := [.ghz2, .ghz5, .ghz6, .any]

def label : Band → String
  | .ghz2 => "2ghz"
  | .ghz5 => "5ghz"
  | .ghz6 => "6ghz"
  | .any => "any"

end Band

def ofLabel? (label : α → String) (all : List α) (s : String) : Option α :=
  all.find? fun a => label a == s

/-- Only the name has to be proper text: a limit on its length is checked. -/
structure NetworkRecord where
  ssid : String
  security : SecurityType := .open
  preSharedKey : Option Text := none
  hidden : Bool := false
  bssid : Option Text := none
  meteredOverride : MeteredOverride := .none
  macRandomization : Bool := true
  deriving DecidableEq, Repr

structure AccessPointRecord where
  ssid : Option String := none
  bssid : Option Text := none
  passphrase : Option Text := none
  security : SecurityType := .wpa2Psk
  hidden : Bool := false
  band : Band := .ghz2
  channel : Nat := 0
  maxClients : Nat := 0
  autoShutdownEnabled : Bool := true
  deriving DecidableEq, Repr

def NetworkRecord.Valid (r : NetworkRecord) : Prop :=
  1 ≤ r.ssid.length ∧ r.ssid.length ≤ 32

def AccessPointRecord.Valid (r : AccessPointRecord) : Prop :=
  (∀ s, r.ssid = some s → s.length ≤ 32) ∧ r.channel ≤ 233

instance (r : NetworkRecord) : Decidable r.Valid :=
  inferInstanceAs (Decidable (_ ∧ _))

end Handover
