import Handover.Proofs.LegacyStore.Contents
import Handover.Proofs.Transfer.ConfigPayload

namespace Handover

inductive RecordInput where
  | arguments (fields : List (Text × Value))
  | json (bs : Bytes)
  | stored (v : Value)

namespace RecordInput

variable {α : Type}

def record? (ofEntries : List (Text × Value) → Except RecordFault α)
    (ofBytes : Bytes → Except RecordFault α) : RecordInput → Option α
  | arguments fields => (ofEntries fields).toOption
  | json bs => (ofBytes bs).toOption
  | stored v => (LegacyStore.recordOf ofEntries v).toOption

def network? : RecordInput → Option NetworkRecord :=
  record? NetworkRecord.ofEntries NetworkRecord.ofBytes

def accessPoint? : RecordInput → Option AccessPointRecord :=
  record? AccessPointRecord.ofEntries AccessPointRecord.ofBytes

inductive Gives : RecordInput → List (Text × Value) → Prop where
  | arguments (fields : List (Text × Value)) : Gives (.arguments fields) fields
  | json {bs text fields} (decoded : Text.Utf8.decode? bs = some text)
      (object : Json.read? recordLimits text.toList =
        some (.map (fields.map fun f => (.text f.1, f.2)))) : Gives (.json bs) fields
  | stored (fields : List (Text × Value)) :
      Gives (.stored (.map (fields.map fun f => (.text f.1, f.2)))) fields

theorem toOption_eq_some_iff {ε : Type} {x : Except ε α} {a : α} :
    x.toOption = some a ↔ x = .ok a := by
  cases x <;> simp [Except.toOption]

section

variable {ofEntries : List (Text × Value) → Except RecordFault α}
  {ofBytes : Bytes → Except RecordFault α} {r : α}

theorem record?_json_eq_some_iff {bs : Bytes} :
    (json bs).record? ofEntries ofBytes = some r ↔ ofBytes bs = .ok r :=
  toOption_eq_some_iff

theorem record?_stored_eq_some_iff {v : Value} :
    (stored v).record? ofEntries ofBytes = some r ↔ LegacyStore.GivenBy ofEntries v r :=
  toOption_eq_some_iff.trans LegacyStore.recordOf_eq_ok_iff

end

theorem gives_of_recordOfJson {kind : RecordKind}
    {ofEntries : List (Text × Value) → Except RecordFault α} {bs : Bytes} {r : α}
    (h : recordOfJson kind ofEntries bs = .ok r) :
    ∃ fields, (json bs).Gives fields ∧ ofEntries fields = .ok r := by
  unfold recordOfJson at h
  split at h
  · cases h
  · next entries read =>
      split at h
      · next fields named =>
          obtain ⟨text, decoded, object⟩ := Option.bind_eq_some_iff.1 read
          rw [Value.textEntries?_eq_some_iff.1 named] at object
          exact ⟨fields, .json decoded object, h⟩
      · cases h
  · cases h

theorem gives_of_record? (kind : RecordKind)
    {ofEntries : List (Text × Value) → Except RecordFault α} {input : RecordInput} {r : α}
    (h : input.record? ofEntries (recordOfJson kind ofEntries) = some r) :
    ∃ fields, input.Gives fields ∧ ofEntries fields = .ok r := by
  cases input with
  | arguments fields => exact ⟨fields, .arguments fields, toOption_eq_some_iff.1 h⟩
  | json bs => exact gives_of_recordOfJson (record?_json_eq_some_iff.1 h)
  | stored v =>
      obtain ⟨fields, rfl, made⟩ := record?_stored_eq_some_iff.1 h
      exact ⟨fields, .stored fields, made⟩

theorem network?_keepsRules {input : RecordInput} {r : NetworkRecord}
    (h : input.network? = some r) :
    ∃ fields, input.Gives (Field.entries fields) ∧ r.KeepsRules fields := by
  obtain ⟨_, given, made⟩ := gives_of_record? .network h
  obtain ⟨fields, rfl, read⟩ := Field.byName_eq_ok made
  exact ⟨fields, given, NetworkRecord.keepsRules read⟩

theorem accessPoint?_keepsRules {input : RecordInput} {r : AccessPointRecord}
    (h : input.accessPoint? = some r) :
    ∃ fields, input.Gives (Field.entries fields) ∧ r.KeepsRules fields := by
  obtain ⟨_, given, made⟩ := gives_of_record? .accessPoint h
  obtain ⟨fields, rfl, read⟩ := Field.byName_eq_ok made
  exact ⟨fields, given, AccessPointRecord.keepsRules read⟩

end RecordInput

namespace ConfigSnapshot

structure Entered (c : ConfigSnapshot) : Prop where
  networks : ∀ rs, c.savedNetworks = some rs → ∀ r ∈ rs, ∃ input : RecordInput,
    input.network? = some r
  accessPoint : ∀ r, c.accessPoint = some r → ∃ input : RecordInput, input.accessPoint? = some r

theorem Entered.valid {c : ConfigSnapshot} (h : c.Entered) : c.Valid := by
  constructor
  · intro rs saved r mem
    obtain ⟨input, entered⟩ := h.networks rs saved r mem
    obtain ⟨fields, -, rules⟩ := RecordInput.network?_keepsRules entered
    exact rules.length
  · intro r point
    obtain ⟨input, entered⟩ := h.accessPoint r point
    obtain ⟨fields, -, rules⟩ := RecordInput.accessPoint?_keepsRules entered
    exact rules.valid

end ConfigSnapshot

namespace Payload

theorem exists_json_of_mem {bs : Bytes} {rs : List NetworkRecord} (h : NetworkBlobs bs rs) :
    ∀ r ∈ rs, ∃ input : RecordInput, input.network? = some r := by
  induction h with
  | nil => simp
  | cons first _ ih =>
      refine List.forall_mem_cons.2 ⟨?_, ih⟩
      obtain ⟨_, read⟩ := first
      exact ⟨.json _, RecordInput.record?_json_eq_some_iff.2 read⟩

theorem entered_of_configLanguage {d : Bytes} {c : ConfigSnapshot}
    (h : ConfigLanguage d (some c)) : c.Entered := by
  obtain _ | ⟨networks, point⟩ := h
  constructor
  · rintro rs rfl
    obtain _ | ⟨_, blobs⟩ := networks
    exact exists_json_of_mem blobs
  · rintro r rfl
    obtain _ | ⟨_, read⟩ := point
    exact ⟨.json _, RecordInput.record?_json_eq_some_iff.2 read⟩

end Payload

namespace LegacyStore

theorem Documented.entered {c : ConfigSnapshot} (h : Documented c) : c.Entered := by
  constructor
  · intro rs saved r mem
    obtain ⟨v, given⟩ := h.networks rs saved r mem
    exact ⟨.stored v, RecordInput.record?_stored_eq_some_iff.2 given⟩
  · intro r point
    obtain ⟨v, given⟩ := h.accessPoint r point
    exact ⟨.stored v, RecordInput.record?_stored_eq_some_iff.2 given⟩

theorem documented_of_loadConfig {cwd : Location} {s : StoreSite} {c : ConfigSnapshot}
    (h : (loadConfig cwd s).value = .ok (some c)) : Documented c := by
  have ends := loadConfig_ends cwd s
  generalize (loadConfig cwd s).value = value, (loadConfig cwd s).state = u at h ends
  cases ends with
  | again => cases h
  | unread => cases h
  | absent => cases h
  | refused => cases h
  | handed _ _ made =>
      cases h
      exact config_documented made

end LegacyStore

theorem records_keepRules :
    (∀ (input : RecordInput) r, input.network? = some r →
      ∃ fields, input.Gives (Field.entries fields) ∧ r.KeepsRules fields) ∧
    (∀ (input : RecordInput) r, input.accessPoint? = some r →
      ∃ fields, input.Gives (Field.entries fields) ∧ r.KeepsRules fields) ∧
    (∀ d c, Payload.decodeConfig d = .ok (some c) → c.Entered ∧ c.Valid) ∧
    ∀ cwd site c, (LegacyStore.loadConfig cwd site).value = .ok (some c) →
      c.Entered ∧ c.Valid := by
  refine ⟨?_, ?_, ?_, ?_⟩
  · exact fun _ _ => RecordInput.network?_keepsRules
  · exact fun _ _ => RecordInput.accessPoint?_keepsRules
  · intro d c decoded
    have entered := Payload.entered_of_configLanguage (Payload.decodeConfig_eq_ok_iff.1 decoded)
    exact ⟨entered, entered.valid⟩
  · intro cwd site c loaded
    have entered := (LegacyStore.documented_of_loadConfig loaded).entered
    exact ⟨entered, entered.valid⟩

def accentedInput : RecordInput :=
  .stored (.map [(.text "hidden", .text "On"), (.text "ssid", .bytes [0xC3, 0xA9])])

def accentedNetwork : NetworkRecord := { ssid := "é", hidden := true }

def hotspot : AccessPointRecord := { ssid := some "", channel := 233, maxClients := 5 }

def hotspotJson : Bytes :=
  Text.Utf8.encode ("\x7b\"ssid\":\"\",\"bssid\":null,\"passphrase\":null,\"security\":\"wpa2-psk\"," ++
    "\"hidden\":false,\"band\":\"2ghz\",\"channel\":233,\"max_clients\":5," ++
    "\"auto_shutdown_enabled\":true\x7d")

def hotspotPayload : Bytes :=
  Payload.configHeader ++ (Parcel.int32Bytes 1 ++ (Parcel.int32Bytes (-1) ++
    (Parcel.int32Bytes 1 ++ (Parcel.int32Bytes hotspotJson.length ++ hotspotJson))))

theorem records_keepRules_met :
    (accentedInput.network? = some accentedNetwork ∧
      ∃ fields, accentedInput.Gives (Field.entries fields) ∧ accentedNetwork.KeepsRules fields) ∧
    ((RecordInput.json hotspotJson).accessPoint? = some hotspot ∧
      ∃ fields, (RecordInput.json hotspotJson).Gives (Field.entries fields) ∧
        hotspot.KeepsRules fields) ∧
    (Payload.decodeConfig hotspotPayload = .ok (some { accessPoint := some hotspot }) ∧
      ConfigSnapshot.Entered { accessPoint := some hotspot }) ∧
    (LegacyStore.loadConfig ["w"]
        (LegacyStore.fresh LegacyStore.sparsePath LegacyStore.sparseTree)).value =
      .ok (some { savedNetworks := some [], accessPoint := some { ssid := some "a" } }) ∧
    ConfigSnapshot.Entered { savedNetworks := some [], accessPoint := some { ssid := some "a" } } := by
  have stored : accentedInput.network? = some accentedNetwork := by rfl
  have written : hotspot.toBytes = .ok hotspotJson :=
    RecordInput.toOption_eq_some_iff.1 (by decide +kernel)
  have valid : hotspot.Valid := by
    refine ⟨?_, by decide⟩
    rintro _ ⟨⟩
    decide
  have read : AccessPointRecord.ofBytes hotspotJson = .ok hotspot :=
    AccessPointRecord.ofBytes_toBytes valid written (by decide)
  have json : (RecordInput.json hotspotJson).accessPoint? = some hotspot :=
    RecordInput.record?_json_eq_some_iff.2 read
  have short : hotspotJson.length < 0x80000000 := by decide +kernel
  have decoded : Payload.decodeConfig hotspotPayload = .ok (some { accessPoint := some hotspot }) :=
    Payload.decodeConfig_eq_ok_iff.2 (.present .absent (.present (.mk short read)))
  have loaded : (LegacyStore.loadConfig ["w"]
      (LegacyStore.fresh LegacyStore.sparsePath LegacyStore.sparseTree)).value =
      .ok (some { savedNetworks := some [], accessPoint := some { ssid := some "a" } }) := by
    have content : LegacyStore.sparseTree.read ["w"] LegacyStore.sparsePath =
        .ok (Text.Utf8.encode LegacyStore.sparseText) := by
      rfl
    have made : LegacyStore.config LegacyStore.sparseEntries =
        .ok { savedNetworks := some [], accessPoint := some { ssid := some "a" } } := by
      rfl
    have parsed : LegacyStore.parse LegacyStore.sparsePath.text
        (Text.Utf8.encode LegacyStore.sparseText) = .ok LegacyStore.sparseEntries :=
      LegacyStore.parse_of_ofBytes _ LegacyStore.ofBytes_sparseText
    simp only [LegacyStore.loadConfig_fresh content, parsed, made]
  obtain ⟨networks, points, payloads, stores⟩ := records_keepRules
  exact ⟨⟨stored, networks _ _ stored⟩, ⟨json, points _ _ json⟩,
    ⟨decoded, (payloads _ _ decoded).1⟩, loaded, (stores _ _ _ loaded).1⟩

end Handover
