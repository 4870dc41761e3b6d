import Handover.Record.AccessPoint
import Handover.Record.Network

namespace Handover

def recordLimits : Json.Limits := { depth := 200, digits := 4300 }

def recordOfJson (kind : RecordKind) (ofEntries : List (Text × Value) → Except RecordFault α)
    (bs : Bytes) : Except RecordFault α :=
  match (Text.Utf8.decode? bs).bind fun s => Json.read? recordLimits s.toList with
  | none => .error ⟨kind, [⟨none, .jsonInvalid⟩]⟩
  | some (.map entries) =>
      match Value.textEntries? entries with
      | some entries => ofEntries entries
      | none => .error ⟨kind, [⟨none, .jsonInvalid⟩]⟩
  | some _ => .error ⟨kind, [⟨none, .modelType⟩]⟩

namespace NetworkRecord

def toBytes (r : NetworkRecord) : Except EncodingFault Bytes :=
  r.json.map fun cs => Text.Utf8.encode (String.ofList cs)

def ofBytes (bs : Bytes) : Except RecordFault NetworkRecord :=
  recordOfJson .network ofEntries bs

end NetworkRecord

namespace AccessPointRecord

def toBytes (r : AccessPointRecord) : Except EncodingFault Bytes :=
  r.json.map fun cs => Text.Utf8.encode (String.ofList cs)

def ofBytes (bs : Bytes) : Except RecordFault AccessPointRecord :=
  recordOfJson .accessPoint ofEntries bs

end AccessPointRecord

end Handover
