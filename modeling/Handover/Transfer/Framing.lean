import Handover.Transfer.Payload

namespace Handover.Framing

def writePayloads (config settings : Bytes) : Parcel.Op Unit := do
  Parcel.writeBlob (some config)
  Parcel.writeBlob (some settings)

def frame (config settings : Bytes) : Except Parcel.Fault Bytes :=
  Payload.written (writePayloads config settings)

def readPayloads : Payload.Decode (Bytes × Bytes) := do
  let config ← Payload.take (Parcel.readBlob "config payload")
  let settings ← Payload.take (Parcel.readBlob "settings payload")
  match config, settings with
  | some config, some settings => do
      Payload.take Parcel.expectEnd
      pure (config, settings)
  | _, _ => Payload.Decode.fail .nullPayload

def payloads (file : Bytes) : Except Malformed (Bytes × Bytes) :=
  Payload.decoded readPayloads file

def encode (config : Option ConfigSnapshot) (settings : SettingsSnapshot) :
    Except Parcel.Fault Bytes :=
  match Payload.encodeConfig config with
  | .error e => .error e
  | .ok config =>
      match Payload.encodeSettings settings with
      | .error e => .error e
      | .ok settings => frame config settings

def decode (file : Bytes) : Except Malformed (Option ConfigSnapshot × SettingsSnapshot) :=
  match payloads file with
  | .error e => .error e
  | .ok (config, settings) =>
      match Payload.decodeConfig config with
      | .error e => .error e
      | .ok config =>
          match Payload.decodeSettings settings with
          | .error e => .error e
          | .ok settings => .ok (config, settings)

end Handover.Framing
