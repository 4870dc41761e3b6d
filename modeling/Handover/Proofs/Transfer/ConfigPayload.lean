import Handover.Proofs.Record.Valid
import Handover.Proofs.Record.Written
import Handover.Proofs.Transfer.Reading

namespace Handover.Payload

open Parcel (int32Bytes flagBytes blobBytes BlobFits encodedBytes EncodedFits)

inductive RecordBlob (ofBytes : Bytes → Except RecordFault α) : Bytes → α → Prop where
  | mk {content : Bytes} {r : α} (fits : content.length < 0x80000000)
      (read : ofBytes content = .ok r) :
      RecordBlob ofBytes (int32Bytes content.length ++ content) r

inductive NetworkBlobs : Bytes → List NetworkRecord → Prop where
  | nil : NetworkBlobs [] []
  | cons {front back : Bytes} {r : NetworkRecord} {rs : List NetworkRecord}
      (first : RecordBlob NetworkRecord.ofBytes front r) (rest : NetworkBlobs back rs) :
      NetworkBlobs (front ++ back) (r :: rs)

inductive SavedNetworksPart : Bytes → Option (List NetworkRecord) → Prop where
  | absent : SavedNetworksPart (int32Bytes (-1)) none
  | present {bs : Bytes} {rs : List NetworkRecord} (fits : rs.length < 0x80000000)
      (blobs : NetworkBlobs bs rs) : SavedNetworksPart (int32Bytes rs.length ++ bs) (some rs)

inductive AccessPointPart : Bytes → Option AccessPointRecord → Prop where
  | absent : AccessPointPart (int32Bytes 0) none
  | present {bs : Bytes} {r : AccessPointRecord}
      (blob : RecordBlob AccessPointRecord.ofBytes bs r) :
      AccessPointPart (int32Bytes 1 ++ bs) (some r)

def configHeader : Bytes := [0x57, 0x46, 0x4D, 0x47, 1, 0, 1]

inductive ConfigLanguage : Bytes → Option ConfigSnapshot → Prop where
  | absent : ConfigLanguage (configHeader ++ int32Bytes 0) none
  | present {front back : Bytes} {savedNetworks : Option (List NetworkRecord)}
      {accessPoint : Option AccessPointRecord} (networks : SavedNetworksPart front savedNetworks)
      (point : AccessPointPart back accessPoint) :
      ConfigLanguage (configHeader ++ (int32Bytes 1 ++ (front ++ back)))
        (some { savedNetworks, accessPoint })

theorem accepts_record (ofBytes : Bytes → Except RecordFault α) (what : String) :
    Accepts (readRecord ofBytes what) (RecordBlob ofBytes) := by
  have h : Accepts (readRecord ofBytes what)
      (Followed (fun bs o => BlobFits o ∧ bs = blobBytes o) fun o rest r =>
        ∃ content, o = some content ∧ rest = [] ∧ ofBytes content = .ok r) := by
    refine (accepts_blob what).bind fun _ o _ => ?_
    cases o with
    | none =>
        refine (accepts_fail (e := .nullRecord what) trivial).congr fun rest r => ?_
        simp
    | some bs =>
        cases hr : ofBytes bs with
        | ok r =>
            simp only [hr]
            refine (accepts_pure r).congr fun rest r' => ?_
            simp [hr, eq_comm]
        | error e =>
            simp only [hr]
            refine (accepts_fail (e := .record what e) trivial).congr fun rest r => ?_
            simp [hr]
  refine h.congr fun bs r => ?_
  rw [followed_fitting]
  constructor
  · rintro ⟨_, _, fits, rfl, content, rfl, rfl, read⟩
    rw [List.append_nil]
    exact ⟨fits, read⟩
  · rintro ⟨fits, read⟩
    exact ⟨some _, [], fits, (List.append_nil _).symm, _, rfl, rfl, read⟩

theorem accepts_networks (index count : Nat) :
    Accepts (readNetworks index count) fun bs rs => rs.length = count ∧ NetworkBlobs bs rs := by
  induction count generalizing index with
  | zero =>
      refine (accepts_pure []).congr fun bs rs => ?_
      constructor
      · rintro ⟨rfl, rfl⟩
        exact ⟨rfl, .nil⟩
      · rintro ⟨none, blobs⟩
        cases blobs with
        | nil => exact ⟨rfl, rfl⟩
        | cons => simp at none
  | succ count ih =>
      refine ((accepts_record NetworkRecord.ofBytes _).bind fun _ r _ =>
        (ih (index + 1)).bind fun _ rs _ => accepts_pure (r :: rs)).congr fun bs rs => ?_
      constructor
      · rintro ⟨r, front, _, rfl, first, rs, back, _, rfl, ⟨rfl, rest⟩, rfl, rfl⟩
        rw [List.append_nil]
        exact ⟨rfl, .cons first rest⟩
      · rintro ⟨length, blobs⟩
        cases blobs with
        | nil => simp at length
        | @cons front back r rs first rest =>
            exact ⟨r, front, back, rfl, first, rs, back, [], by simp,
              ⟨by simpa using length, rest⟩, rfl, rfl⟩

theorem accepts_savedNetworks : Accepts readSavedNetworks SavedNetworksPart := by
  have step : ∀ bs n, (Parcel.FitsInt32 n ∧ bs = int32Bytes n) ∧ Parcel.absent ≤ n →
      Accepts (if n < 0 then pure none else do
          let rs ← readNetworks 0 n.toNat
          pure (some rs))
        fun rest networks => (n = -1 ∧ rest = [] ∧ networks = none) ∨
          ∃ rs, networks = some rs ∧ n = rs.length ∧ NetworkBlobs rest rs := by
    rintro bs n ⟨_, low⟩
    by_cases negative : n < 0
    · rw [if_pos negative]
      refine (accepts_pure none).congr fun rest networks => ?_
      have null : n = -1 := by
        rw [Parcel.absent] at low
        omega
      constructor
      · rintro ⟨rfl, rfl⟩
        exact .inl ⟨null, rfl, rfl⟩
      · rintro (⟨_, rfl, rfl⟩ | ⟨rs, _, h, _⟩)
        · exact ⟨rfl, rfl⟩
        · omega
    · rw [if_neg negative]
      refine ((accepts_networks 0 n.toNat).bind fun _ rs _ => accepts_pure (some rs)).congr
        fun rest networks => ?_
      constructor
      · rintro ⟨rs, bs, _, rfl, ⟨length, blobs⟩, rfl, rfl⟩
        rw [List.append_nil]
        exact .inr ⟨rs, rfl, by omega, blobs⟩
      · rintro (⟨h, _⟩ | ⟨rs, rfl, rfl, blobs⟩)
        · omega
        · exact ⟨rs, rest, [], by simp, ⟨rfl, blobs⟩, rfl, rfl⟩
  refine ((accepts_length "saved networks").bind step).congr fun bs networks => ?_
  constructor
  · rintro ⟨n, _, _, rfl, ⟨⟨fits, rfl⟩, _⟩, ⟨rfl, rfl, rfl⟩ | ⟨rs, rfl, rfl, blobs⟩⟩
    · exact .absent
    · exact .present (by have := fits.2; omega) blobs
  · rintro (_ | ⟨fits, blobs⟩)
    · exact ⟨-1, _, [], rfl, ⟨⟨by decide, rfl⟩, by decide⟩, .inl ⟨rfl, rfl, rfl⟩⟩
    · refine ⟨_, _, _, rfl, ⟨⟨?_, rfl⟩, ?_⟩, .inr ⟨_, rfl, rfl, blobs⟩⟩
      · rw [Parcel.FitsInt32]
        omega
      · rw [Parcel.absent]
        omega

theorem accepts_accessPoint : Accepts readAccessPoint AccessPointPart := by
  have step : ∀ b : Bool, Accepts (if b then do
        let r ← readRecord AccessPointRecord.ofBytes "access point configuration"
        pure (some r)
      else pure none)
      fun rest point => (b = false ∧ rest = [] ∧ point = none) ∨
        ∃ r, b = true ∧ point = some r ∧ RecordBlob AccessPointRecord.ofBytes rest r := by
    intro b
    cases b with
    | false => exact (accepts_pure none).congr fun rest point => by simp
    | true =>
        refine ((accepts_record AccessPointRecord.ofBytes _).bind fun _ r _ =>
          accepts_pure (some r)).congr fun rest point => ?_
        constructor
        · rintro ⟨r, bs, _, rfl, blob, rfl, rfl⟩
          rw [List.append_nil]
          exact .inr ⟨r, rfl, rfl, blob⟩
        · rintro (⟨⟨⟩, _⟩ | ⟨r, _, rfl, blob⟩)
          exact ⟨r, rest, [], by simp, blob, rfl, rfl⟩
  refine ((accepts_flag "access point present").bind fun _ b _ => step b).congr fun bs point => ?_
  rw [followed_layout]
  constructor
  · rintro ⟨_, _, rfl, ⟨rfl, rfl, rfl⟩ | ⟨r, rfl, rfl, blob⟩⟩
    · exact .absent
    · exact .present blob
  · rintro (_ | blob)
    · exact ⟨false, [], rfl, .inl ⟨rfl, rfl, rfl⟩⟩
    · exact ⟨true, _, rfl, .inr ⟨_, rfl, rfl, blob⟩⟩

theorem acceptsAll_config : AcceptsAll readConfig ConfigLanguage := by
  have step : ∀ b : Bool, AcceptsAll (if b then do
        let savedNetworks ← readSavedNetworks
        let accessPoint ← readAccessPoint
        take Parcel.expectEnd
        pure (some { savedNetworks, accessPoint })
      else do
        take Parcel.expectEnd
        pure none)
      fun rest x => (b = false ∧ rest = [] ∧ x = none) ∨
        ∃ front back savedNetworks accessPoint, b = true ∧ rest = front ++ back ∧
          SavedNetworksPart front savedNetworks ∧ AccessPointPart back accessPoint ∧
          x = some (ConfigSnapshot.mk savedNetworks accessPoint) := by
    intro b
    cases b with
    | false => exact (acceptsAll_end none).congr fun rest x => by simp
    | true =>
        refine (accepts_savedNetworks.bindAll fun _ savedNetworks _ =>
          accepts_accessPoint.bindAll fun _ accessPoint _ =>
          acceptsAll_end (some (ConfigSnapshot.mk savedNetworks accessPoint))).congr
            fun rest x => ?_
        constructor
        · rintro ⟨networks, front, _, rfl, hnetworks, point, back, _, rfl, hpoint, rfl, rfl⟩
          exact .inr ⟨front, back, networks, point, rfl, by simp, hnetworks, hpoint, rfl⟩
        · rintro (⟨⟨⟩, _⟩ | ⟨front, back, networks, point, _, rfl, hnetworks, hpoint, rfl⟩)
          exact ⟨networks, front, back, rfl, hnetworks, point, back, [], by simp, hpoint, rfl, rfl⟩
  refine ((accepts_header .config).bindAll fun _ _ _ =>
    (accepts_flag "config present").bindAll fun _ b _ => step b).congr fun bs x => ?_
  simp only [followed_layout]
  constructor
  · rintro ⟨_, _, rfl, _, _, rfl, ⟨rfl, rfl, rfl⟩ |
      ⟨front, back, networks, point, rfl, rfl, hnetworks, hpoint, rfl⟩⟩
    · exact .absent
    · exact .present hnetworks hpoint
  · rintro (_ | ⟨hnetworks, hpoint⟩)
    · exact ⟨(), _, rfl, false, [], rfl, .inl ⟨rfl, rfl, rfl⟩⟩
    · exact ⟨(), _, rfl, true, _, rfl, .inr ⟨_, _, _, _, rfl, rfl, hnetworks, hpoint, rfl⟩⟩

theorem decodeConfig_eq_ok_iff {d : Bytes} {x : Option ConfigSnapshot} :
    decodeConfig d = .ok x ↔ ConfigLanguage d x :=
  decoded_eq_ok_iff acceptsAll_config

theorem decodeConfig_language (d : Bytes) :
    (∀ x, decodeConfig d = .ok x ↔ ConfigLanguage d x) ∧
      ((∀ x, ¬ ConfigLanguage d x) →
        ∃ e, decodeConfig d = .error e ∧ e.OfBytes) :=
  ⟨fun _ => decodeConfig_eq_ok_iff, decoded_eq_error acceptsAll_config⟩

theorem decodeConfig_language_flag_two :
    (∀ x, ¬ ConfigLanguage (configHeader ++ int32Bytes 2) x) ∧
      ∃ e, decodeConfig (configHeader ++ int32Bytes 2) = .error e ∧ e.OfBytes := by
  have refused : decodeConfig (configHeader ++ int32Bytes 2) =
      .error (.parcel (.flag "config present" 2)) := by
    rfl
  have outside : ∀ x, ¬ ConfigLanguage (configHeader ++ int32Bytes 2) x := by
    intro x hx
    rw [← decodeConfig_eq_ok_iff, refused] at hx
    cases hx
  exact ⟨outside, (decodeConfig_language _).2 outside⟩

def networkBytes (rs : List NetworkRecord) : Bytes :=
  rs.flatMap fun r => encodedBytes r.toBytes

def savedNetworksBytes : Option (List NetworkRecord) → Bytes
  | none => int32Bytes Parcel.absent
  | some rs => int32Bytes rs.length ++ networkBytes rs

def accessPointBytes : Option AccessPointRecord → Bytes
  | none => flagBytes false
  | some r => flagBytes true ++ encodedBytes r.toBytes

def configBytes : Option ConfigSnapshot → Bytes
  | none => headerBytes .config ++ flagBytes false
  | some s =>
      headerBytes .config ++
        (flagBytes true ++ (savedNetworksBytes s.savedNetworks ++ accessPointBytes s.accessPoint))

theorem blobFits_iff {bs : Bytes} : BlobFits (some bs) ↔ bs.length ≤ 0x7FFFFFFF := by
  rw [BlobFits]
  omega

structure SnapshotFits (s : ConfigSnapshot) : Prop where
  count : ∀ rs, s.savedNetworks = some rs → rs.length ≤ 0x7FFFFFFF
  networks : ∀ rs, s.savedNetworks = some rs →
    ∀ r ∈ rs, ∀ bs, r.toBytes = .ok bs → bs.length ≤ 0x7FFFFFFF
  accessPoint : ∀ r, s.accessPoint = some r → ∀ bs, r.toBytes = .ok bs → bs.length ≤ 0x7FFFFFFF

theorem encodedFits_iff {x : Except EncodingFault Bytes} :
    EncodedFits x ↔ (∃ bs, x = .ok bs) ∧ ∀ bs, x = .ok bs → bs.length ≤ 0x7FFFFFFF := by
  cases x with
  | error e => simp [EncodedFits]
  | ok bs =>
      simp only [EncodedFits, BlobFits, Except.ok.injEq, exists_eq', true_and, forall_eq']
      omega

theorem network_encodedFits_iff {r : NetworkRecord} : EncodedFits r.toBytes ↔
    r.Proper ∧ ∀ bs, r.toBytes = .ok bs → bs.length ≤ 0x7FFFFFFF := by
  rw [encodedFits_iff, NetworkRecord.exists_toBytes_iff]

theorem accessPoint_encodedFits_iff {r : AccessPointRecord} : EncodedFits r.toBytes ↔
    r.Proper ∧ ∀ bs, r.toBytes = .ok bs → bs.length ≤ 0x7FFFFFFF := by
  rw [encodedFits_iff, AccessPointRecord.exists_toBytes_iff]

theorem proper_and_fits_iff {s : ConfigSnapshot} : s.Proper ∧ SnapshotFits s ↔
    (∀ rs, s.savedNetworks = some rs →
      rs.length ≤ 0x7FFFFFFF ∧ ∀ r ∈ rs, EncodedFits r.toBytes) ∧
    ∀ r, s.accessPoint = some r → EncodedFits r.toBytes := by
  simp only [network_encodedFits_iff, accessPoint_encodedFits_iff]
  constructor
  · rintro ⟨proper, fits⟩
    exact ⟨fun rs e => ⟨fits.count rs e, fun r mem =>
        ⟨proper.networks rs e r mem, fits.networks rs e r mem⟩⟩,
      fun r e => ⟨proper.accessPoint r e, fits.accessPoint r e⟩⟩
  · rintro ⟨networks, point⟩
    exact ⟨⟨fun rs e r mem => ((networks rs e).2 r mem).1, fun r e => (point r e).1⟩,
      fun rs e => (networks rs e).1, fun rs e r mem => ((networks rs e).2 r mem).2,
      fun r e => (point r e).2⟩

theorem appends_record (x : Except EncodingFault Bytes) :
    Parcel.Appends (writeRecord x) (EncodedFits x) (encodedBytes x) := by
  cases x with
  | ok bs => exact Parcel.appends_blob (some bs)
  | error e => exact ⟨False.elim, fun _ p => ⟨_, p, rfl⟩⟩

theorem appends_networks (rs : List NetworkRecord) :
    Parcel.Appends (writeNetworks rs) (∀ r ∈ rs, EncodedFits r.toBytes) (networkBytes rs) := by
  induction rs with
  | nil =>
      have h := Parcel.appends_pure
      have none : ∀ r ∈ ([] : List NetworkRecord), EncodedFits r.toBytes := by simp
      exact ⟨fun _ => h.ok trivial, fun no => absurd none no⟩
  | cons r rs ih =>
      have h := (appends_record r.toBytes).bind ih
      simp only [List.forall_mem_cons]
      exact h

theorem appends_savedNetworks (networks : Option (List NetworkRecord)) :
    Parcel.Appends (writeSavedNetworks networks)
      (∀ rs, networks = some rs → rs.length ≤ 0x7FFFFFFF ∧ ∀ r ∈ rs, EncodedFits r.toBytes)
      (savedNetworksBytes networks) := by
  cases networks with
  | none =>
      have h := Parcel.appends_int32 Parcel.absent
      exact ⟨fun _ => h.ok (by decide), fun no => absurd (by simp) no⟩
  | some rs =>
      have h := (Parcel.appends_int32 rs.length).bind (appends_networks rs)
      have count : Parcel.FitsInt32 rs.length ↔ rs.length ≤ 0x7FFFFFFF := by
        rw [Parcel.FitsInt32]
        omega
      rw [count] at h
      simp only [Option.some.injEq, forall_eq']
      exact h

theorem appends_accessPoint (point : Option AccessPointRecord) :
    Parcel.Appends (writeAccessPoint point) (∀ r, point = some r → EncodedFits r.toBytes)
      (accessPointBytes point) := by
  cases point with
  | none =>
      have h := Parcel.appends_flag false
      exact ⟨fun _ => h.ok trivial, fun no => absurd (by simp) no⟩
  | some r =>
      have h := (Parcel.appends_flag true).bind (appends_record r.toBytes)
      rw [true_and] at h
      simp only [Option.some.injEq, forall_eq']
      exact h

theorem encodeConfig_eq_ok_iff {x : Option ConfigSnapshot} {d : Bytes} :
    encodeConfig x = .ok d ↔
      (∀ s, x = some s → s.Proper ∧ SnapshotFits s) ∧ d = configBytes x := by
  cases x with
  | none =>
      have h := (appends_header .config).bind (Parcel.appends_flag false)
      rw [encodeConfig, writeConfig, written_eq_ok_iff h]
      simp [configBytes]
  | some s =>
      have h := (appends_header .config).bind ((Parcel.appends_flag true).bind
        ((appends_savedNetworks s.savedNetworks).bind (appends_accessPoint s.accessPoint)))
      rw [encodeConfig, writeConfig, written_eq_ok_iff h, true_and, true_and,
        ← proper_and_fits_iff]
      simp [configBytes]

theorem networkBlobs_networkBytes {rs : List NetworkRecord} (valid : ∀ r ∈ rs, r.Valid)
    (fits : ∀ r ∈ rs, EncodedFits r.toBytes) : NetworkBlobs (networkBytes rs) rs := by
  induction rs with
  | nil => exact .nil
  | cons r rs ih =>
      obtain ⟨⟨bs, written⟩, small⟩ := encodedFits_iff.1 (fits r (by simp))
      have blob : BlobFits (some bs) := blobFits_iff.2 (small bs written)
      have first : RecordBlob NetworkRecord.ofBytes (encodedBytes r.toBytes) r := by
        rw [written]
        exact ⟨blob, NetworkRecord.ofBytes_toBytes (valid r (by simp)) written⟩
      exact .cons first (ih (fun s hs => valid s (by simp [hs])) fun s hs => fits s (by simp [hs]))

section

variable {s : ConfigSnapshot} (valid : s.Valid) (proper : s.Proper) (fits : SnapshotFits s)

include valid proper fits

theorem savedNetworksPart_written :
    SavedNetworksPart (savedNetworksBytes s.savedNetworks) s.savedNetworks := by
  cases h : s.savedNetworks with
  | none => exact .absent
  | some rs =>
      have count := fits.count rs h
      have each : ∀ r ∈ rs, EncodedFits r.toBytes := fun r mem =>
        network_encodedFits_iff.2 ⟨proper.networks rs h r mem, fits.networks rs h r mem⟩
      exact .present (by omega) (networkBlobs_networkBytes (valid.networks rs h) each)

end

theorem accessPointPart_written_iff {r : AccessPointRecord} (valid : r.Valid)
    (fits : EncodedFits r.toBytes) :
    AccessPointPart (accessPointBytes (some r)) (some r) ↔
      (Nat.toDigits 10 r.maxClients).length ≤ recordLimits.digits := by
  obtain ⟨⟨bs, written⟩, small⟩ := encodedFits_iff.1 fits
  have read := AccessPointRecord.ofBytes_toBytes_iff valid written
  have layout : accessPointBytes (some r) = int32Bytes 1 ++ (int32Bytes bs.length ++ bs) := by
    rw [accessPointBytes, written]
    rfl
  rw [Json.nat] at read
  rw [← read, layout]
  constructor
  · intro h
    obtain ⟨content, same, hr⟩ : ∃ content, int32Bytes 1 ++ (int32Bytes bs.length ++ bs) =
        int32Bytes 1 ++ (int32Bytes content.length ++ content) ∧
          AccessPointRecord.ofBytes content = .ok r := by
      generalize int32Bytes 1 ++ (int32Bytes bs.length ++ bs) = d at h
      obtain _ | ⟨⟨_, hr⟩⟩ := h
      exact ⟨_, rfl, hr⟩
    have blob := List.append_cancel_left same
    rw [(List.append_inj blob (by simp)).2]
    exact hr
  · intro hr
    exact .present ⟨blobFits_iff.2 (small bs written), hr⟩

def CountReadable (s : ConfigSnapshot) : Prop :=
  ∀ r, s.accessPoint = some r → (Nat.toDigits 10 r.maxClients).length ≤ recordLimits.digits

theorem configLanguage_configBytes_iff {s : ConfigSnapshot} (valid : s.Valid)
    (proper : s.Proper) (fits : SnapshotFits s) :
    ConfigLanguage (configBytes (some s)) (some s) ↔ CountReadable s := by
  have networks := savedNetworksPart_written valid proper fits
  have point : ∀ r, s.accessPoint = some r → EncodedFits r.toBytes := fun r hr =>
    accessPoint_encodedFits_iff.2 ⟨proper.accessPoint r hr, fits.accessPoint r hr⟩
  constructor
  · intro h r hr
    obtain ⟨front, back, same, hnetworks, hpoint⟩ : ∃ front back,
        configBytes (some s) = configHeader ++ (int32Bytes 1 ++ (front ++ back)) ∧
          SavedNetworksPart front s.savedNetworks ∧ AccessPointPart back s.accessPoint := by
      generalize configBytes (some s) = d at h
      obtain _ | ⟨hnetworks, hpoint⟩ := h
      exact ⟨_, _, rfl, hnetworks, hpoint⟩
    have parts : savedNetworksBytes s.savedNetworks ++ accessPointBytes s.accessPoint =
        front ++ back := List.append_cancel_left (List.append_cancel_left same)
    obtain ⟨-, -, rfl⟩ := accepts_savedNetworks.unique networks hnetworks parts
    rw [hr] at hpoint
    exact (accessPointPart_written_iff (valid.accessPoint r hr) (point r hr)).1 hpoint
  · intro digits
    refine .present networks ?_
    cases hr : s.accessPoint with
    | none => exact .absent
    | some r =>
        exact (accessPointPart_written_iff (valid.accessPoint r hr) (point r hr)).2 (digits r hr)

section

variable {x : Option ConfigSnapshot} (valid : ∀ s, x = some s → s.Valid)
  (proper : ∀ s, x = some s → s.Proper) (fits : ∀ s, x = some s → SnapshotFits s)

include valid proper fits

theorem decodeConfig_configBytes (readable : ∀ s, x = some s → CountReadable s) :
    decodeConfig (configBytes x) = .ok x := by
  rw [decodeConfig_eq_ok_iff]
  cases x with
  | none => exact .absent
  | some s =>
      exact (configLanguage_configBytes_iff (valid s rfl) (proper s rfl) (fits s rfl)).2
        (readable s rfl)

end

theorem decodeConfig_encodeConfig (x : Option ConfigSnapshot)
    (valid : ∀ s, x = some s → s.Valid) (proper : ∀ s, x = some s → s.Proper)
    (fits : ∀ s, x = some s → SnapshotFits s)
    (digits : ∀ s r, x = some s → s.accessPoint = some r →
      (Nat.toDigits 10 r.maxClients).length < 4300) :
    ∃ d, encodeConfig x = .ok d ∧ decodeConfig d = .ok x := by
  refine ⟨configBytes x, encodeConfig_eq_ok_iff.2 ⟨fun s h => ⟨proper s h, fits s h⟩, rfl⟩, ?_⟩
  exact decodeConfig_configBytes valid proper fits fun s h r hr => Nat.le_of_lt (digits s r h hr)

def escapedSnapshot : ConfigSnapshot :=
  { savedNetworks := some [{ ssid := "a\"é\n", preSharedKey := some "\u0001" }]
    accessPoint := some { ssid := some "", channel := 36, maxClients := 18446744073709551616 } }

theorem decodeConfig_encodeConfig_escaped :
    escapedSnapshot.Valid ∧ escapedSnapshot.Proper ∧ SnapshotFits escapedSnapshot ∧
      ∃ d, encodeConfig (some escapedSnapshot) = .ok d ∧
        decodeConfig d = .ok (some escapedSnapshot) := by
  have valid : escapedSnapshot.Valid := by
    constructor
    · rintro _ ⟨⟩
      decide
    · rintro _ ⟨⟩
      refine ⟨?_, by decide⟩
      rintro _ ⟨⟩
      decide
  obtain ⟨proper, fits⟩ : escapedSnapshot.Proper ∧ SnapshotFits escapedSnapshot := by
    refine proper_and_fits_iff.2 ⟨?_, ?_⟩
    · rintro _ ⟨⟩
      decide +kernel
    · rintro _ ⟨⟩
      decide +kernel
  refine ⟨valid, proper, fits, decodeConfig_encodeConfig _ ?_ ?_ ?_ ?_⟩
  · rintro _ ⟨⟩
    exact valid
  · rintro _ ⟨⟩
    exact proper
  · rintro _ ⟨⟩
    exact fits
  · rintro _ _ ⟨⟩ ⟨⟩
    decide

end Handover.Payload
