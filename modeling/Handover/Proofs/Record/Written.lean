import Handover.Proofs.Except
import Handover.Proofs.Json.Written
import Handover.Proofs.Record.Valid
import Handover.Proofs.Text.Proper
import Handover.Record.Json

namespace Handover

namespace Field

theorem sized_text {least most : Nat} {s : String} (h : least ≤ s.length ∧ s.length ≤ most) :
    sized least most (.text s) = .ok s := by
  have long : ¬ s.length < least := by omega
  have short : ¬ most < s.length := by omega
  simp [sized, string, spelled?, properText, long, short]

theorem optional_sized {least most : Nat} {s : Option String}
    (h : ∀ t, s = some t → least ≤ t.length ∧ t.length ≤ most) :
    optional (sized least most) (s.elim .null fun s => .text s) = .ok s := by
  cases s with
  | none => rfl
  | some s => simp [optional, sized_text (h s rfl)]

theorem optional_text (t : Option Text) : optional text (t.elim .null .text) = .ok t := by
  cases t <;> rfl

theorem member_label {label : α → String} {all : List α}
    (h : ∀ a, ofLabel? label all (label a) = some a) (a : α) :
    member label all (.text (label a)) = .ok a := by
  simp only [member, spelled?, properText, labelled, h]

theorem count_nat {most : Option Nat} {n : Nat} (h : ∀ m, most = some m → n ≤ m) :
    count most (.int n) = .ok n := by
  cases most with
  | none => simp [count, integer, spelled?]
  | some m =>
      have within : ¬ m < n := by
        have := h m rfl
        omega
      simp [count, integer, spelled?, within]

end Field

theorem Json.exists_text?_iff {o : Option Text} :
    (∃ cs, Json.text? o = .ok cs) ↔ ∀ t, o = some t → t.IsProper := by
  cases o with
  | none => simp [Json.text?]
  | some t =>
      rw [Json.text?, Except.exists_map_iff, Text.exists_string_iff]
      simp

theorem SecurityType.ofLabel?_label (a : SecurityType) :
    ofLabel? label all a.label = some a := by
  cases a <;> decide

theorem MeteredOverride.ofLabel?_label (a : MeteredOverride) :
    ofLabel? label all a.label = some a := by
  cases a <;> decide

theorem Band.ofLabel?_label (a : Band) : ofLabel? label all a.label = some a := by
  cases a <;> decide

theorem Value.textEntries?_entries (ms : List Json.Member) :
    textEntries? (ms.map Json.Member.entry) =
      some (Field.entries (ms.map fun m => (m.name, m.value))) := by
  induction ms with
  | nil => rfl
  | cons m ms ih =>
      rw [List.map_cons, Json.Member.entry, textEntries?, ih]
      rfl

theorem recordOfJson_object {kind : RecordKind}
    {read : List (String × Value) → Except RecordFault α} {ms : List Json.Member}
    (nonempty : ms ≠ []) (h : ∀ m ∈ ms, Json.Reads recordLimits.digits m.text m.value) :
    recordOfJson kind (Field.byName kind read)
        (Text.Utf8.encode (String.ofList (Json.object (ms.map Json.Member.written)))) =
      read (ms.map fun m => (m.name, m.value)) := by
  have deep : 0 < recordLimits.depth := by decide
  rw [recordOfJson, Text.Utf8.decode?_encode, Option.bind_some, String.toList_ofList,
    Json.read?_object deep nonempty h]
  simp only [Value.textEntries?_entries, Field.byName_entries]

theorem recordOfJson_refused (kind : RecordKind)
    (ofEntries : List (Text × Value) → Except RecordFault α) {m : Json.Member}
    (h : Json.Refused recordLimits.digits m.text) (before after : List Json.Member)
    (hb : ∀ n ∈ before, Json.Reads recordLimits.digits n.text n.value) :
    recordOfJson kind ofEntries (Text.Utf8.encode
        (String.ofList (Json.object ((before ++ m :: after).map Json.Member.written)))) =
      .error ⟨kind, [⟨none, .jsonInvalid⟩]⟩ := by
  rw [recordOfJson, Text.Utf8.decode?_encode, Option.bind_some, String.toList_ofList,
    Json.read?_refused recordLimits h before after hb]

namespace NetworkRecord

/-- The texts that may be absent are proper ones; the name always is. -/
structure Proper (r : NetworkRecord) : Prop where
  preSharedKey : ∀ t, r.preSharedKey = some t → t.IsProper
  bssid : ∀ t, r.bssid = some t → t.IsProper

def members (r : NetworkRecord) (preSharedKey bssid : List Char) : List Json.Member :=
  [⟨"ssid", Json.quote r.ssid.toList, .text r.ssid⟩,
    ⟨"security", Json.quote r.security.label.toList, .text r.security.label⟩,
    ⟨"pre_shared_key", preSharedKey, r.preSharedKey.elim .null .text⟩,
    ⟨"hidden", Json.bool r.hidden, .bool r.hidden⟩,
    ⟨"bssid", bssid, r.bssid.elim .null .text⟩,
    ⟨"metered_override", Json.quote r.meteredOverride.label.toList,
      .text r.meteredOverride.label⟩,
    ⟨"mac_randomization", Json.bool r.macRandomization, .bool r.macRandomization⟩]

theorem json_eq_ok_iff {r : NetworkRecord} {cs : List Char} :
    r.json = .ok cs ↔ ∃ preSharedKey bssid, Json.text? r.preSharedKey = .ok preSharedKey ∧
      Json.text? r.bssid = .ok bssid ∧
        cs = Json.object ((r.members preSharedKey bssid).map Json.Member.written) := by
  rw [json]
  cases Json.text? r.preSharedKey with
  | error e => exact ⟨nofun, nofun⟩
  | ok preSharedKey =>
      cases Json.text? r.bssid with
      | error e => exact ⟨nofun, nofun⟩
      | ok bssid =>
          constructor
          · rintro ⟨⟩
            exact ⟨preSharedKey, bssid, rfl, rfl, rfl⟩
          · rintro ⟨_, _, ⟨⟩, ⟨⟩, rfl⟩
            rfl

theorem exists_toBytes_iff {r : NetworkRecord} : (∃ bs, r.toBytes = .ok bs) ↔ r.Proper := by
  rw [toBytes, Except.exists_map_iff]
  constructor
  · rintro ⟨cs, h⟩
    obtain ⟨preSharedKey, bssid, hkey, hbssid, -⟩ := json_eq_ok_iff.1 h
    exact ⟨Json.exists_text?_iff.1 ⟨_, hkey⟩, Json.exists_text?_iff.1 ⟨_, hbssid⟩⟩
  · intro proper
    obtain ⟨preSharedKey, hkey⟩ := Json.exists_text?_iff.2 proper.preSharedKey
    obtain ⟨bssid, hbssid⟩ := Json.exists_text?_iff.2 proper.bssid
    exact ⟨_, json_eq_ok_iff.2 ⟨preSharedKey, bssid, hkey, hbssid, rfl⟩⟩

theorem ofNamed_members {r : NetworkRecord} (valid : r.Valid) (preSharedKey bssid : List Char) :
    ofNamed ((r.members preSharedKey bssid).map fun m => (m.name, m.value)) = .ok r := by
  have ssid := Field.sized_text valid
  have security := Field.member_label SecurityType.ofLabel?_label r.security
  have override := Field.member_label MeteredOverride.ofLabel?_label r.meteredOverride
  simp [ofNamed, members, Field.get, Field.last?, Field.unknown, fieldNames, ssid, security,
    override, Field.optional_text, Field.flag, Field.spelled?]

theorem ofBytes_toBytes {r : NetworkRecord} (valid : r.Valid) {bs : Bytes}
    (h : r.toBytes = .ok bs) : ofBytes bs = .ok r := by
  obtain ⟨cs, written, rfl⟩ := Except.map_eq_ok_iff.1 h
  obtain ⟨preSharedKey, bssid, hkey, hbssid, rfl⟩ := json_eq_ok_iff.1 written
  have nonempty : r.members preSharedKey bssid ≠ [] := by simp [members]
  have reads : ∀ m ∈ r.members preSharedKey bssid,
      Json.Reads recordLimits.digits m.text m.value := by
    simp [members, Json.reads_quote, Json.reads_text? _ hkey, Json.reads_text? _ hbssid,
      Json.reads_bool]
  exact (recordOfJson_object nonempty reads).trans (ofNamed_members valid preSharedKey bssid)

end NetworkRecord

namespace AccessPointRecord

structure Proper (r : AccessPointRecord) : Prop where
  bssid : ∀ t, r.bssid = some t → t.IsProper
  passphrase : ∀ t, r.passphrase = some t → t.IsProper

def members (r : AccessPointRecord) (bssid passphrase : List Char) : List Json.Member :=
  [⟨"ssid", Json.optional (Json.quote ·.toList) r.ssid, r.ssid.elim .null fun s => .text s⟩,
    ⟨"bssid", bssid, r.bssid.elim .null .text⟩,
    ⟨"passphrase", passphrase, r.passphrase.elim .null .text⟩,
    ⟨"security", Json.quote r.security.label.toList, .text r.security.label⟩,
    ⟨"hidden", Json.bool r.hidden, .bool r.hidden⟩,
    ⟨"band", Json.quote r.band.label.toList, .text r.band.label⟩,
    ⟨"channel", Json.nat r.channel, .int r.channel⟩,
    ⟨"max_clients", Json.nat r.maxClients, .int r.maxClients⟩,
    ⟨"auto_shutdown_enabled", Json.bool r.autoShutdownEnabled, .bool r.autoShutdownEnabled⟩]

theorem json_eq_ok_iff {r : AccessPointRecord} {cs : List Char} :
    r.json = .ok cs ↔ ∃ bssid passphrase, Json.text? r.bssid = .ok bssid ∧
      Json.text? r.passphrase = .ok passphrase ∧
        cs = Json.object ((r.members bssid passphrase).map Json.Member.written) := by
  rw [json]
  cases Json.text? r.bssid with
  | error e => exact ⟨nofun, nofun⟩
  | ok bssid =>
      cases Json.text? r.passphrase with
      | error e => exact ⟨nofun, nofun⟩
      | ok passphrase =>
          constructor
          · rintro ⟨⟩
            exact ⟨bssid, passphrase, rfl, rfl, rfl⟩
          · rintro ⟨_, _, ⟨⟩, ⟨⟩, rfl⟩
            rfl

theorem exists_toBytes_iff {r : AccessPointRecord} : (∃ bs, r.toBytes = .ok bs) ↔ r.Proper := by
  rw [toBytes, Except.exists_map_iff]
  constructor
  · rintro ⟨cs, h⟩
    obtain ⟨bssid, passphrase, hbssid, hpass, -⟩ := json_eq_ok_iff.1 h
    exact ⟨Json.exists_text?_iff.1 ⟨_, hbssid⟩, Json.exists_text?_iff.1 ⟨_, hpass⟩⟩
  · intro proper
    obtain ⟨bssid, hbssid⟩ := Json.exists_text?_iff.2 proper.bssid
    obtain ⟨passphrase, hpass⟩ := Json.exists_text?_iff.2 proper.passphrase
    exact ⟨_, json_eq_ok_iff.2 ⟨bssid, passphrase, hbssid, hpass, rfl⟩⟩

theorem length_nat_channel {n : Nat} (h : n ≤ 233) : (Json.nat n).length ≤ 3 :=
  (Nat.length_toDigits_le_iff (by decide) (by decide)).2 (by omega)

theorem ofNamed_members {r : AccessPointRecord} (valid : r.Valid) (bssid passphrase : List Char) :
    ofNamed ((r.members bssid passphrase).map fun m => (m.name, m.value)) = .ok r := by
  have ssid := Field.optional_sized fun s hs => ⟨Nat.zero_le _, valid.1 s hs⟩
  have security := Field.member_label SecurityType.ofLabel?_label r.security
  have band := Field.member_label Band.ofLabel?_label r.band
  have channel : Field.count (some 233) (.int r.channel) = .ok r.channel :=
    Field.count_nat fun m hm => Option.some.inj hm ▸ valid.2
  have clients : Field.count none (.int r.maxClients) = .ok r.maxClients :=
    Field.count_nat nofun
  simp [ofNamed, members, Field.get, Field.last?, Field.unknown, fieldNames, ssid, security,
    band, channel, clients, Field.optional_text, Field.flag, Field.spelled?]

section

variable {r : AccessPointRecord} (valid : r.Valid) {bs : Bytes} (h : r.toBytes = .ok bs)

include valid h

theorem ofBytes_toBytes (digits : (Json.nat r.maxClients).length ≤ recordLimits.digits) :
    ofBytes bs = .ok r := by
  obtain ⟨cs, written, rfl⟩ := Except.map_eq_ok_iff.1 h
  obtain ⟨bssid, passphrase, hbssid, hpass, rfl⟩ := json_eq_ok_iff.1 written
  have nonempty : r.members bssid passphrase ≠ [] := by simp [members]
  have channel : (Json.nat r.channel).length ≤ recordLimits.digits :=
    Nat.le_trans (length_nat_channel valid.2) (by decide)
  have reads : ∀ m ∈ r.members bssid passphrase,
      Json.Reads recordLimits.digits m.text m.value := by
    simp [members, Json.reads_quote, Json.reads_optional, Json.reads_text? _ hbssid,
      Json.reads_text? _ hpass, Json.reads_bool, Json.reads_nat channel, Json.reads_nat digits]
  exact (recordOfJson_object nonempty reads).trans (ofNamed_members valid bssid passphrase)

theorem ofBytes_toBytes_long (long : recordLimits.digits < (Json.nat r.maxClients).length) :
    ofBytes bs = .error ⟨.accessPoint, [⟨none, .jsonInvalid⟩]⟩ := by
  obtain ⟨cs, written, rfl⟩ := Except.map_eq_ok_iff.1 h
  obtain ⟨bssid, passphrase, hbssid, hpass, rfl⟩ := json_eq_ok_iff.1 written
  have channel : (Json.nat r.channel).length ≤ recordLimits.digits :=
    Nat.le_trans (length_nat_channel valid.2) (by decide)
  have earlier : ∀ m ∈ (r.members bssid passphrase).take 7,
      Json.Reads recordLimits.digits m.text m.value := by
    simp [members, Json.reads_quote, Json.reads_optional, Json.reads_text? _ hbssid,
      Json.reads_text? _ hpass, Json.reads_bool, Json.reads_nat channel]
  exact recordOfJson_refused .accessPoint ofEntries
    (m := ⟨"max_clients", Json.nat r.maxClients, .int r.maxClients⟩) (Json.refused_nat long)
    ((r.members bssid passphrase).take 7) ((r.members bssid passphrase).drop 8) earlier

theorem ofBytes_toBytes_iff :
    ofBytes bs = .ok r ↔ (Json.nat r.maxClients).length ≤ recordLimits.digits := by
  constructor
  · intro read
    by_cases long : recordLimits.digits < (Json.nat r.maxClients).length
    · rw [ofBytes_toBytes_long valid h long] at read
      cases read
    · exact Nat.not_lt.1 long
  · exact ofBytes_toBytes valid h

end

end AccessPointRecord

structure ConfigSnapshot.Proper (s : ConfigSnapshot) : Prop where
  networks : ∀ rs, s.savedNetworks = some rs → ∀ r ∈ rs, r.Proper
  accessPoint : ∀ r, s.accessPoint = some r → r.Proper

end Handover
