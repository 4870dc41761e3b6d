import Handover.Record.Json
import Handover.Snapshot.Config
import Handover.Snapshot.Settings
import Handover.Transfer.Malformed

namespace Handover.Payload

inductive Kind where
  | config
  | settings
  deriving DecidableEq, Repr

def Kind.code : Kind → Nat
  | .config => 1
  | .settings => 2

def formatVersion : Nat := 1

def readableVersions : List Nat := [formatVersion]

def Decode (α : Type) := Parcel → Except Malformed (α × Parcel)

namespace Decode

def pure (a : α) : Decode α :=
  fun p => .ok (a, p)

def bind (x : Decode α) (f : α → Decode β) : Decode β :=
  fun p =>
    match x p with
    | .ok (a, p) => f a p
    | .error e => .error e

def fail (e : Malformed) : Decode α :=
  fun _ => .error e

instance : Monad Decode where
  pure := pure
  bind := bind

end Decode

def take (op : Parcel.Op α) : Decode α :=
  fun p =>
    match op p with
    | (.ok a, p) => .ok (a, p)
    | (.error e, _) => .error (.parcel e)

def writeHeader (kind : Kind) : Parcel.Op Unit := do
  Parcel.writeRaw Malformed.magicBytes
  Parcel.writeUint16 formatVersion
  Parcel.writeUint8 kind.code

def readHeader (kind : Kind) : Decode Unit := do
  let magic ← take (Parcel.readRaw Malformed.magicBytes.length "magic")
  if magic ≠ Malformed.magicBytes then Decode.fail (.magic magic)
  else do
    let version ← take (Parcel.readUint16 "format version")
    if version ∉ readableVersions then Decode.fail (.version version)
    else do
      let found ← take (Parcel.readUint8 "payload kind")
      if found ≠ kind.code then Decode.fail (.kind found kind.code)
      else pure ()

def readRecord (ofBytes : Bytes → Except RecordFault α) (what : String) : Decode α := do
  match ← take (Parcel.readBlob what) with
  | none => Decode.fail (.nullRecord what)
  | some bs =>
      match ofBytes bs with
      | .ok r => pure r
      | .error e => Decode.fail (.record what e)

def writeRecord : Except EncodingFault Bytes → Parcel.Op Unit
  | .ok bs => Parcel.writeBlob (some bs)
  | .error e => Parcel.Op.fail (.serialization e)

def writeNetworks : List NetworkRecord → Parcel.Op Unit
  | [] => pure ()
  | r :: rest => do
      writeRecord r.toBytes
      writeNetworks rest

def readNetworks (index : Nat) : (count : Nat) → Decode (List NetworkRecord)
  | 0 => pure []
  | count + 1 => do
      let r ← readRecord NetworkRecord.ofBytes s!"saved network {index}"
      let rest ← readNetworks (index + 1) count
      pure (r :: rest)

def writeSavedNetworks : Option (List NetworkRecord) → Parcel.Op Unit
  | none => Parcel.writeInt32 Parcel.absent
  | some rs => do
      Parcel.writeInt32 rs.length
      writeNetworks rs

def writeAccessPoint : Option AccessPointRecord → Parcel.Op Unit
  | none => Parcel.writeBool false
  | some r => do
      Parcel.writeBool true
      writeRecord r.toBytes

def writeConfig : Option ConfigSnapshot → Parcel.Op Unit
  | none => Parcel.writeBool false
  | some s => do
      Parcel.writeBool true
      writeSavedNetworks s.savedNetworks
      writeAccessPoint s.accessPoint

def readSavedNetworks : Decode (Option (List NetworkRecord)) := do
  let count ← take (Parcel.readLength "saved networks")
  if count < 0 then pure none
  else do
    let rs ← readNetworks 0 count.toNat
    pure (some rs)

def readAccessPoint : Decode (Option AccessPointRecord) := do
  if ← take (Parcel.readBool "access point present") then do
    let r ← readRecord AccessPointRecord.ofBytes "access point configuration"
    pure (some r)
  else pure none

def readConfig : Decode (Option ConfigSnapshot) := do
  readHeader .config
  if ← take (Parcel.readBool "config present") then do
    let savedNetworks ← readSavedNetworks
    let accessPoint ← readAccessPoint
    take Parcel.expectEnd
    pure (some { savedNetworks, accessPoint })
  else do
    take Parcel.expectEnd
    pure none

def writeSetting (s : SettingsSnapshot) : Setting → Parcel.Op Unit
  | .scanAlwaysAvailable => Parcel.writeBool s.scanAlwaysAvailable
  | .p2pFactoryResetPending => Parcel.writeBool s.p2pFactoryResetPending
  | .p2pDeviceName => Parcel.writeString s.p2pDeviceName
  | .softApTimeoutEnabled => Parcel.writeBool s.softApTimeoutEnabled
  | .wakeupEnabled => Parcel.writeBool s.wakeupEnabled
  | .scanThrottleEnabled => Parcel.writeBool s.scanThrottleEnabled
  | .verboseLoggingEnabled => Parcel.writeBool s.verboseLoggingEnabled

def writeSettings (s : SettingsSnapshot) : List Setting → Parcel.Op Unit
  | [] => pure ()
  | setting :: rest => do
      writeSetting s setting
      writeSettings s rest

def readFlag (setting : Setting) : Decode Bool :=
  take (Parcel.readBool setting.name)

def readSettings : Decode SettingsSnapshot := do
  readHeader .settings
  let scanAlwaysAvailable ← readFlag .scanAlwaysAvailable
  let p2pFactoryResetPending ← readFlag .p2pFactoryResetPending
  let p2pDeviceName ← take (Parcel.readString Setting.p2pDeviceName.name)
  let softApTimeoutEnabled ← readFlag .softApTimeoutEnabled
  let wakeupEnabled ← readFlag .wakeupEnabled
  let scanThrottleEnabled ← readFlag .scanThrottleEnabled
  let verboseLoggingEnabled ← readFlag .verboseLoggingEnabled
  take Parcel.expectEnd
  pure { scanAlwaysAvailable, p2pFactoryResetPending, p2pDeviceName, softApTimeoutEnabled,
         wakeupEnabled, scanThrottleEnabled, verboseLoggingEnabled }

def written (op : Parcel.Op Unit) : Except Parcel.Fault Bytes :=
  match op {} with
  | (.ok (), p) => .ok p.buffer
  | (.error e, _) => .error e

def decoded (x : Decode α) (bs : Bytes) : Except Malformed α :=
  match x (Parcel.ofBytes bs) with
  | .ok (a, _) => .ok a
  | .error e => .error e

/-- The config payload; no snapshot says that no config has to be taken over. -/
def encodeConfig (s : Option ConfigSnapshot) : Except Parcel.Fault Bytes :=
  written do
    writeHeader .config
    writeConfig s

def decodeConfig (bs : Bytes) : Except Malformed (Option ConfigSnapshot) :=
  decoded readConfig bs

def encodeSettings (s : SettingsSnapshot) : Except Parcel.Fault Bytes :=
  written do
    writeHeader .settings
    writeSettings s Setting.all

def decodeSettings (bs : Bytes) : Except Malformed SettingsSnapshot :=
  decoded readSettings bs

end Handover.Payload
