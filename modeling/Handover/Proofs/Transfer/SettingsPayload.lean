import Handover.Proofs.Transfer.Reading

namespace Handover.Payload

open Parcel (flagBytes textBytes TextFits)

def settingBytes (s : SettingsSnapshot) : Setting → Bytes
  | .scanAlwaysAvailable => flagBytes s.scanAlwaysAvailable
  | .p2pFactoryResetPending => flagBytes s.p2pFactoryResetPending
  | .p2pDeviceName => textBytes s.p2pDeviceName
  | .softApTimeoutEnabled => flagBytes s.softApTimeoutEnabled
  | .wakeupEnabled => flagBytes s.wakeupEnabled
  | .scanThrottleEnabled => flagBytes s.scanThrottleEnabled
  | .verboseLoggingEnabled => flagBytes s.verboseLoggingEnabled

def SettingFits (s : SettingsSnapshot) : Setting → Prop
  | .p2pDeviceName => TextFits s.p2pDeviceName
  | _ => True

def settingsBytes (s : SettingsSnapshot) : Bytes :=
  headerBytes .settings ++ Setting.all.flatMap (settingBytes s)

theorem appends_setting (s : SettingsSnapshot) (setting : Setting) :
    Parcel.Appends (writeSetting s setting) (SettingFits s setting) (settingBytes s setting) := by
  cases setting with
  | p2pDeviceName => exact Parcel.appends_text _
  | scanAlwaysAvailable => exact Parcel.appends_flag _
  | p2pFactoryResetPending => exact Parcel.appends_flag _
  | softApTimeoutEnabled => exact Parcel.appends_flag _
  | wakeupEnabled => exact Parcel.appends_flag _
  | scanThrottleEnabled => exact Parcel.appends_flag _
  | verboseLoggingEnabled => exact Parcel.appends_flag _

theorem appends_settings (s : SettingsSnapshot) (settings : List Setting) :
    Parcel.Appends (writeSettings s settings) (∀ x ∈ settings, SettingFits s x)
      (settings.flatMap (settingBytes s)) := by
  induction settings with
  | nil =>
      have h := Parcel.appends_pure
      exact ⟨fun _ => h.ok trivial, fun no => absurd nofun no⟩
  | cons x rest ih =>
      have h := (appends_setting s x).bind ih
      simp only [List.forall_mem_cons, List.flatMap_cons]
      exact h

theorem encodeSettings_eq_ok_iff {s : SettingsSnapshot} {d : Bytes} :
    encodeSettings s = .ok d ↔ TextFits s.p2pDeviceName ∧ d = settingsBytes s := by
  have h := (appends_header .settings).bind (appends_settings s Setting.all)
  have fits : (∀ x ∈ Setting.all, SettingFits s x) ↔ TextFits s.p2pDeviceName := by
    simp [Setting.all, SettingFits]
  rw [encodeSettings, written_eq_ok_iff h, fits, true_and]
  rfl

theorem acceptsAll_settings :
    AcceptsAll readSettings fun bs s => TextFits s.p2pDeviceName ∧ bs = settingsBytes s := by
  have h := (accepts_header .settings).bindAll fun _ _ _ =>
    (accepts_flag Setting.scanAlwaysAvailable.name).bindAll fun _ scanAlwaysAvailable _ =>
    (accepts_flag Setting.p2pFactoryResetPending.name).bindAll fun _ p2pFactoryResetPending _ =>
    (accepts_text Setting.p2pDeviceName.name).bindAll fun _ p2pDeviceName _ =>
    (accepts_flag Setting.softApTimeoutEnabled.name).bindAll fun _ softApTimeoutEnabled _ =>
    (accepts_flag Setting.wakeupEnabled.name).bindAll fun _ wakeupEnabled _ =>
    (accepts_flag Setting.scanThrottleEnabled.name).bindAll fun _ scanThrottleEnabled _ =>
    (accepts_flag Setting.verboseLoggingEnabled.name).bindAll fun _ verboseLoggingEnabled _ =>
    acceptsAll_end (SettingsSnapshot.mk scanAlwaysAvailable p2pFactoryResetPending p2pDeviceName
      softApTimeoutEnabled wakeupEnabled scanThrottleEnabled verboseLoggingEnabled)
  refine h.congr fun bs s => ?_
  simp only [followed_layout, followed_fitting]
  constructor
  · rintro ⟨_, _, rfl, _, _, rfl, _, _, rfl, _, _, fits, rfl, _, _, rfl, _, _, rfl, _, _, rfl,
      _, _, rfl, rfl, rfl⟩
    exact ⟨fits, rfl⟩
  · rintro ⟨fits, rfl⟩
    exact ⟨(), _, rfl, _, _, rfl, _, _, rfl, _, _, fits, rfl, _, _, rfl, _, _, rfl, _, _, rfl,
      _, _, rfl, rfl, rfl⟩

theorem decodeSettings_eq_ok_iff {d : Bytes} {s : SettingsSnapshot} :
    decodeSettings d = .ok s ↔ TextFits s.p2pDeviceName ∧ d = settingsBytes s :=
  decoded_eq_ok_iff acceptsAll_settings

theorem settings_payload_bijective :
    (∀ d s, decodeSettings d = .ok s ↔ encodeSettings s = .ok d) ∧
      (∀ d, (∀ s, encodeSettings s ≠ .ok d) →
        ∃ e, decodeSettings d = .error e ∧ e.OfBytes) ∧
      (∀ s, TextFits s.p2pDeviceName → ∃ d, encodeSettings s = .ok d) ∧
      ∀ d d' s, decodeSettings d = .ok s → decodeSettings d' = .ok s → d = d' := by
  refine ⟨fun d s => ?_, fun d h => ?_, fun s fits => ?_, fun d d' s h h' => ?_⟩
  · rw [decodeSettings_eq_ok_iff, encodeSettings_eq_ok_iff]
  · exact decoded_eq_error acceptsAll_settings fun s hs => h s (encodeSettings_eq_ok_iff.2 hs)
  · exact ⟨settingsBytes s, encodeSettings_eq_ok_iff.2 ⟨fits, rfl⟩⟩
  · rw [(decodeSettings_eq_ok_iff.1 h).2, (decodeSettings_eq_ok_iff.1 h').2]

def overlongName : Bytes :=
  headerBytes .settings ++ (flagBytes false ++ (flagBytes false ++ (Parcel.int32Bytes 2 ++
    ([0xC1, 0x81] ++ (flagBytes true ++ (flagBytes false ++ (flagBytes true ++
      flagBytes false)))))))

theorem settings_payload_overlong :
    (∀ s, encodeSettings s ≠ .ok overlongName) ∧
      ∃ e, decodeSettings overlongName = .error e ∧ e.OfBytes := by
  have refused : decodeSettings overlongName = .error (.parcel (.text "p2p_device_name")) := by
    rfl
  have unwritten : ∀ s, encodeSettings s ≠ .ok overlongName := by
    intro s hs
    rw [← settings_payload_bijective.1, refused] at hs
    cases hs
  exact ⟨unwritten, settings_payload_bijective.2.1 _ unwritten⟩

end Handover.Payload
