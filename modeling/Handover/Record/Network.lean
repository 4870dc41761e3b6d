import Handover.Json.Reader
import Handover.Json.Writer
import Handover.Record.Field

namespace Handover.NetworkRecord

def fieldNames : List String :=
  ["ssid", "security", "pre_shared_key", "hidden", "bssid", "metered_override",
    "mac_randomization"]

def ofNamed (entries : List (String × Value)) : Except RecordFault NetworkRecord :=
  let ssid := Field.get entries "ssid" (Field.sized 1 32) (.error .missing)
  let security := Field.get entries "security" (Field.member SecurityType.label SecurityType.all)
    (.ok .open)
  let preSharedKey := Field.get entries "pre_shared_key" (Field.optional Field.text) (.ok none)
  let hidden := Field.get entries "hidden" Field.flag (.ok false)
  let bssid := Field.get entries "bssid" (Field.optional Field.text) (.ok none)
  let meteredOverride := Field.get entries "metered_override"
    (Field.member MeteredOverride.label MeteredOverride.all) (.ok .none)
  let macRandomization := Field.get entries "mac_randomization" Field.flag (.ok true)
  let unknown := Field.unknown fieldNames entries
  match ssid, security, preSharedKey, hidden, bssid, meteredOverride, macRandomization, unknown with
  | .ok ssid, .ok security, .ok preSharedKey, .ok hidden, .ok bssid, .ok meteredOverride,
      .ok macRandomization, [] =>
      .ok { ssid, security, preSharedKey, hidden, bssid, meteredOverride, macRandomization }
  | ssid, security, preSharedKey, hidden, bssid, meteredOverride, macRandomization, unknown =>
      .error
        { kind := .network
          violations :=
            Field.violation "ssid" ssid ++ Field.violation "security" security ++
            Field.violation "pre_shared_key" preSharedKey ++ Field.violation "hidden" hidden ++
            Field.violation "bssid" bssid ++ Field.violation "metered_override" meteredOverride ++
            Field.violation "mac_randomization" macRandomization ++ unknown }

def ofEntries (entries : List (Text × Value)) : Except RecordFault NetworkRecord :=
  Field.byName .network ofNamed entries

def json (r : NetworkRecord) : Except EncodingFault (List Char) := do
  let preSharedKey ← Json.text? r.preSharedKey
  let bssid ← Json.text? r.bssid
  return Json.object
    [("ssid", Json.quote r.ssid.toList),
      ("security", Json.quote r.security.label.toList),
      ("pre_shared_key", preSharedKey),
      ("hidden", Json.bool r.hidden),
      ("bssid", bssid),
      ("metered_override", Json.quote r.meteredOverride.label.toList),
      ("mac_randomization", Json.bool r.macRandomization)]

end Handover.NetworkRecord
