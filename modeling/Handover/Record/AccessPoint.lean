import Handover.Json.Reader
import Handover.Json.Writer
import Handover.Record.Field

namespace Handover.AccessPointRecord

def fieldNames : List String :=
  ["ssid", "bssid", "passphrase", "security", "hidden", "band", "channel", "max_clients",
    "auto_shutdown_enabled"]

/-- The record that the entries give, or every rule they break: fields first, then unknown names. -/
def ofNamed (entries : List (String × Value)) : Except RecordFault AccessPointRecord :=
  let ssid := Field.get entries "ssid" (Field.optional (Field.sized 0 32)) (.ok none)
  let bssid := Field.get entries "bssid" (Field.optional Field.text) (.ok none)
  let passphrase := Field.get entries "passphrase" (Field.optional Field.text) (.ok none)
  let security := Field.get entries "security" (Field.member SecurityType.label SecurityType.all)
    (.ok .wpa2Psk)
  let hidden := Field.get entries "hidden" Field.flag (.ok false)
  let band := Field.get entries "band" (Field.member Band.label Band.all) (.ok .ghz2)
  let channel := Field.get entries "channel" (Field.count (some 233)) (.ok 0)
  let maxClients := Field.get entries "max_clients" (Field.count none) (.ok 0)
  let autoShutdownEnabled := Field.get entries "auto_shutdown_enabled" Field.flag (.ok true)
  let unknown := Field.unknown fieldNames entries
  match ssid, bssid, passphrase, security, hidden, band, channel, maxClients, autoShutdownEnabled,
      unknown with
  | .ok ssid, .ok bssid, .ok passphrase, .ok security, .ok hidden, .ok band, .ok channel,
      .ok maxClients, .ok autoShutdownEnabled, [] =>
      .ok { ssid, bssid, passphrase, security, hidden, band, channel, maxClients,
            autoShutdownEnabled }
  | ssid, bssid, passphrase, security, hidden, band, channel, maxClients, autoShutdownEnabled,
      unknown =>
      .error
        { kind := .accessPoint
          violations :=
            Field.violation "ssid" ssid ++ Field.violation "bssid" bssid ++
            Field.violation "passphrase" passphrase ++ Field.violation "security" security ++
            Field.violation "hidden" hidden ++ Field.violation "band" band ++
            Field.violation "channel" channel ++ Field.violation "max_clients" maxClients ++
            Field.violation "auto_shutdown_enabled" autoShutdownEnabled ++ unknown }

def ofEntries (entries : List (Text × Value)) : Except RecordFault AccessPointRecord :=
  Field.byName .accessPoint ofNamed entries

def json (r : AccessPointRecord) : Except EncodingFault (List Char) := do
  let bssid ← Json.text? r.bssid
  let passphrase ← Json.text? r.passphrase
  return Json.object
    [("ssid", Json.optional (Json.quote ·.toList) r.ssid),
      ("bssid", bssid),
      ("passphrase", passphrase),
      ("security", Json.quote r.security.label.toList),
      ("hidden", Json.bool r.hidden),
      ("band", Json.quote r.band.label.toList),
      ("channel", Json.nat r.channel),
      ("max_clients", Json.nat r.maxClients),
      ("auto_shutdown_enabled", Json.bool r.autoShutdownEnabled)]

end Handover.AccessPointRecord
