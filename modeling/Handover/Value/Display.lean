import Handover.Number.Integer
import Handover.Number.Shortest
import Handover.Text.Encoding
import Handover.Value.Basic

namespace Handover

def joined (separator : String) : List String → String
  | [] => ""
  | [s] => s
  | s :: rest => s ++ separator ++ joined separator rest

def boolText (b : Bool) : String :=
  if b then "True" else "False"

def optionalText : Option Text → String
  | none => "None"
  | some t => t.quoted

def Date.quoted (d : Date) : String :=
  "datetime.date(" ++ joined ", " [toString d.year, toString d.month, toString d.day] ++ ")"

def offsetQuoted (minutes : Int) : String :=
  if minutes = 0 then "datetime.timezone.utc"
  else "datetime.timezone(" ++ spanQuoted minutes ++ ")"

/-- Seconds are left out when they and the fraction are zero. -/
def DateTime.quoted (t : DateTime) : String :=
  let fraction := if t.microsecond = 0 then [] else [t.microsecond]
  let seconds := if t.second = 0 && t.microsecond = 0 then [] else t.second :: fraction
  let numbers := [t.date.year, t.date.month, t.date.day, t.hour, t.minute] ++ seconds
  let zone :=
    match t.offset with
    | none => []
    | some m => ["tzinfo=" ++ offsetQuoted m]
  "datetime.datetime(" ++ joined ", " (numbers.map toString ++ zone) ++ ")"

def memberQuoted (type name label : String) : String :=
  "<" ++ type ++ "." ++ name ++ ": " ++ Text.Quoted.text label ++ ">"

def SecurityType.quoted (s : SecurityType) : String :=
  memberQuoted "SecurityType"
    (match s with
      | .open => "OPEN"
      | .wep => "WEP"
      | .wpa2Psk => "WPA2_PSK"
      | .wpa3Sae => "WPA3_SAE"
      | .wpa2Eap => "WPA2_EAP"
      | .owe => "OWE")
    s.label

def MeteredOverride.quoted (m : MeteredOverride) : String :=
  memberQuoted "MeteredOverride"
    (match m with
      | .none => "NONE"
      | .metered => "METERED"
      | .notMetered => "NOT_METERED")
    m.label

def Band.quoted (b : Band) : String :=
  memberQuoted "Band"
    (match b with
      | .ghz2 => "BAND_2GHZ"
      | .ghz5 => "BAND_5GHZ"
      | .ghz6 => "BAND_6GHZ"
      | .any => "ANY")
    b.label

def NetworkRecord.shown (r : NetworkRecord) : List String :=
  ["ssid=" ++ Text.Quoted.text r.ssid, "security=" ++ r.security.quoted,
    "pre_shared_key=" ++ optionalText r.preSharedKey, "hidden=" ++ boolText r.hidden,
    "bssid=" ++ optionalText r.bssid, "metered_override=" ++ r.meteredOverride.quoted,
    "mac_randomization=" ++ boolText r.macRandomization]

def AccessPointRecord.shown (r : AccessPointRecord) : List String :=
  ["ssid=" ++ optionalText (r.ssid.map .proper), "bssid=" ++ optionalText r.bssid,
    "passphrase=" ++ optionalText r.passphrase, "security=" ++ r.security.quoted,
    "hidden=" ++ boolText r.hidden, "band=" ++ r.band.quoted, "channel=" ++ toString r.channel,
    "max_clients=" ++ toString r.maxClients,
    "auto_shutdown_enabled=" ++ boolText r.autoShutdownEnabled]

namespace Value

mutual

def quoted : Value → String
  | null => "None"
  | bool b => boolText b
  | int n => toString n
  | float x => Number.floatText x
  | text t => t.quoted
  | derived f _ => f.quoted
  | bytes b => Text.Quoted.bytes b
  | byteArray b => "bytearray(" ++ Text.Quoted.bytes b ++ ")"
  | date d => d.quoted
  | dateTime t => t.quoted
  | list items => "[" ++ joined ", " (quotedAll items) ++ "]"
  | tuple [] => "()"
  | tuple [a] => "(" ++ quoted a ++ ",)"
  | tuple (a :: b :: rest) =>
      "(" ++ joined ", " (quoted a :: quoted b :: quotedAll rest) ++ ")"
  | set [] => "set()"
  | set (a :: rest) => "\x7b" ++ joined ", " (quoted a :: quotedAll rest) ++ "\x7d"
  | sequence f _ => f.quoted
  | map entries => "\x7b" ++ joined ", " (quotedEntries entries) ++ "\x7d"
  | network r => "NetworkRecord(" ++ joined ", " r.shown ++ ")"
  | accessPoint r => "AccessPointRecord(" ++ joined ", " r.shown ++ ")"
  | object f _ => f.quoted

def quotedAll : List Value → List String
  | [] => []
  | a :: rest => quoted a :: quotedAll rest

def quotedEntries : List (Value × Value) → List String
  | [] => []
  | (k, v) :: rest => (quoted k ++ ": " ++ quoted v) :: quotedEntries rest

end

mutual

/-- Whether a value can be shown: none of its integers has more digits than a text of one may have. -/
def isShown : Value → Bool
  | int n => decide ((Nat.toDigits 10 n.natAbs).length ≤ Number.digitLimit)
  | list items => isShownAll items
  | tuple items => isShownAll items
  | set items => isShownAll items
  | map entries => isShownEntries entries
  | accessPoint r => decide ((Nat.toDigits 10 r.maxClients).length ≤ Number.digitLimit)
  | _ => true

def isShownAll : List Value → Bool
  | [] => true
  | a :: rest => isShown a && isShownAll rest

def isShownEntries : List (Value × Value) → Bool
  | [] => true
  | (k, v) :: rest => isShown k && isShown v && isShownEntries rest

end

def plain : Value → Text
  | text t => t
  | derived f _ => f.plain
  | date d => d.text
  | dateTime t => t.text " "
  | sequence f _ => f.plain
  | network r => joined " " r.shown
  | accessPoint r => joined " " r.shown
  | object f _ => f.plain
  | v => v.quoted

end Value

end Handover
