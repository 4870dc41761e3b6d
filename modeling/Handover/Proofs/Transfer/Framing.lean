import Handover.Proofs.Transfer.ConfigPayload
import Handover.Proofs.Transfer.SettingsPayload
import Handover.Transfer.Framing

namespace Handover.Framing

open Parcel (BlobFits blobBytes)
open Payload (AcceptsAll accepts_blob acceptsAll_end acceptsAll_fail)

theorem acceptsAll_payloads :
    AcceptsAll readPayloads fun bs r =>
      (BlobFits (some r.1) ∧ BlobFits (some r.2)) ∧
        bs = blobBytes (some r.1) ++ blobBytes (some r.2) := by
  have h : AcceptsAll readPayloads
      (Payload.Followed (fun bs o => BlobFits o ∧ bs = blobBytes o) fun config =>
        Payload.Followed (fun bs o => BlobFits o ∧ bs = blobBytes o) fun settings rest r =>
          rest = [] ∧ config = some r.1 ∧ settings = some r.2) := by
    refine (accepts_blob "config payload").bindAll fun _ config _ =>
      (accepts_blob "settings payload").bindAll fun _ settings _ => ?_
    cases config with
    | none =>
        refine (acceptsAll_fail (e := .nullPayload) trivial).congr fun rest r => ?_
        simp
    | some config =>
        cases settings with
        | none =>
            refine (acceptsAll_fail (e := .nullPayload) trivial).congr fun rest r => ?_
            simp
        | some settings =>
            refine (acceptsAll_end (config, settings)).congr fun rest r => ?_
            simp [Prod.ext_iff, eq_comm]
  refine h.congr fun bs r => ?_
  simp only [Payload.followed_fitting]
  constructor
  · rintro ⟨_, _, hconfig, rfl, _, _, hsettings, rfl, rfl, rfl, rfl⟩
    exact ⟨⟨hconfig, hsettings⟩, by simp⟩
  · rintro ⟨⟨hconfig, hsettings⟩, rfl⟩
    exact ⟨_, _, hconfig, rfl, _, [], hsettings, by simp, rfl, rfl, rfl⟩

theorem frame_eq_ok_iff {config settings file : Bytes} :
    frame config settings = .ok file ↔ (BlobFits (some config) ∧ BlobFits (some settings)) ∧
      file = blobBytes (some config) ++ blobBytes (some settings) :=
  Payload.written_eq_ok_iff
    ((Parcel.appends_blob (some config)).bind (Parcel.appends_blob (some settings)))

theorem payloads_eq_ok_iff {file config settings : Bytes} :
    payloads file = .ok (config, settings) ↔ frame config settings = .ok file := by
  rw [payloads, Payload.decoded_eq_ok_iff acceptsAll_payloads, frame_eq_ok_iff]

theorem encode_eq_ok_iff {config : Option ConfigSnapshot} {settings : SettingsSnapshot}
    {file : Bytes} :
    encode config settings = .ok file ↔ ∃ c s, Payload.encodeConfig config = .ok c ∧
      Payload.encodeSettings settings = .ok s ∧ frame c s = .ok file := by
  rw [encode]
  cases Payload.encodeConfig config with
  | error _ => simp
  | ok c => cases Payload.encodeSettings settings <;> simp

theorem decode_eq_ok_iff {config : Option ConfigSnapshot} {settings : SettingsSnapshot}
    {file : Bytes} :
    decode file = .ok (config, settings) ↔ ∃ c s, payloads file = .ok (c, s) ∧
      Payload.decodeConfig c = .ok config ∧ Payload.decodeSettings s = .ok settings := by
  constructor
  · intro h
    unfold decode at h
    split at h
    · cases h
    · next c s hp =>
        split at h
        · cases h
        · next hc =>
            split at h
            · cases h
            · next hs =>
                cases h
                exact ⟨c, s, hp, hc, hs⟩
  · rintro ⟨c, s, hp, hc, hs⟩
    unfold decode
    simp only [hp, hc, hs]

theorem decode_eq_error_iff {e : Malformed} {file : Bytes} :
    decode file = .error e ↔ payloads file = .error e ∨ ∃ c s, payloads file = .ok (c, s) ∧
      (Payload.decodeConfig c = .error e ∨
        ∃ config, Payload.decodeConfig c = .ok config ∧ Payload.decodeSettings s = .error e) := by
  constructor
  · intro h
    unfold decode at h
    split at h
    · next hp =>
        cases h
        exact .inl hp
    · next c s hp =>
        refine .inr ⟨c, s, hp, ?_⟩
        split at h
        · next hc =>
            cases h
            exact .inl hc
        · next config hc =>
            split at h
            · next hs =>
                cases h
                exact .inr ⟨config, hc, hs⟩
            · cases h
  · rintro (hp | ⟨c, s, hp, hc | ⟨config, hc, hs⟩⟩)
    · unfold decode
      rw [hp]
    · unfold decode
      simp only [hp, hc]
    · unfold decode
      simp only [hp, hc, hs]

theorem ofBytes_of_decode {e : Malformed} {file : Bytes} (h : decode file = .error e) : e.OfBytes := by
  obtain hp | ⟨c, s, -, hc | ⟨config, -, hs⟩⟩ := decode_eq_error_iff.1 h
  · exact Payload.malformed_of_decoded acceptsAll_payloads hp
  · exact Payload.malformed_of_decoded Payload.acceptsAll_config hc
  · exact Payload.malformed_of_decoded Payload.acceptsAll_settings hs

theorem decode_encode_iff {config : ConfigSnapshot} {settings : SettingsSnapshot} {file : Bytes}
    (valid : config.Valid) (h : encode (some config) settings = .ok file) :
    decode file = .ok (some config, settings) ↔ Payload.CountReadable config := by
  obtain ⟨c, s, hc, hs, hf⟩ := encode_eq_ok_iff.1 h
  obtain ⟨fits, rfl⟩ := Payload.encodeConfig_eq_ok_iff.1 hc
  have settingsBack : Payload.decodeSettings s = .ok settings :=
    (Payload.decodeSettings_eq_ok_iff).2 (Payload.encodeSettings_eq_ok_iff.1 hs)
  have payloadsBack := payloads_eq_ok_iff.2 hf
  obtain ⟨proper, fits⟩ := fits config rfl
  rw [← Payload.configLanguage_configBytes_iff valid proper fits,
    ← Payload.decodeConfig_eq_ok_iff, decode_eq_ok_iff]
  constructor
  · rintro ⟨c', s', hp, hc', -⟩
    cases payloadsBack.symm.trans hp
    exact hc'
  · intro configBack
    exact ⟨_, s, payloadsBack, configBack, settingsBack⟩

end Handover.Framing
