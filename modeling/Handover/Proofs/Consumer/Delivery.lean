import Handover.Proofs.Consumer.Receive

namespace Handover

open Payload (encodeConfig encodeSettings configBytes settingsBytes)

variable {σ τ : Type}

def infoTexts (journal : List Event) : List String :=
  journal.filterMap fun
    | .logged .info text => some text
    | _ => none

@[simp] theorem infoTexts_append (j k : List Event) : infoTexts (j ++ k) = infoTexts j ++ infoTexts k :=
  List.filterMap_append

@[simp] theorem infoTexts_informed (texts : List String) : infoTexts (Consumer.informed texts) = texts := by
  induction texts with
  | nil => rfl
  | cons text rest ih => exact congrArg (text :: ·) ih

/-- From a state, the loaders of a source return these snapshots and its commit returns; the three
journals are what each of them says itself. -/
inductive Source.Delivers (source : Source σ) (environment : Provider σ) (s : σ)
    (config : Option ConfigSnapshot) (settings : SettingsSnapshot) (first second third : List Event) :
    Prop where
  | mk {t u v : σ} (loadConfig : source.loadConfig s = ⟨.ok config, t, first⟩)
      (loadSettings : source.loadSettings environment t = ⟨.ok settings, u, second⟩)
      (commit : source.commit u = ⟨.ok (), v, third⟩)

namespace Consumer

theorem onSite_apply {α : Type} {x : Action σ Fault α} {b : Boot σ} {value : Except Fault α} {t : σ}
    {journal : List Event} (h : x b.site = ⟨value, t, journal⟩) :
    onSite x b = ⟨value, { b with site := t }, journal⟩ := by
  rw [onSite, Action.zoom, h]

variable {source : Source σ} {environment : Provider σ} {s : σ} {config : Option ConfigSnapshot}
  {settings : SettingsSnapshot} {first second third : List Event}

theorem pull_delivered (h : source.Delivers environment s config settings first second third) :
    (pull source environment ⟨false, s⟩).value = .ok { config, settings := some settings } ∧
      (pull source environment ⟨false, s⟩).journal =
        first ++ informed (configTexts config) ++ second ++ informed [settingsText settings] ++
          third := by
  obtain ⟨loadConfig, loadSettings, commit⟩ := h
  rw [pull, Action.bind_of_eq (claim_unclaimed rfl), Action.bind_of_eq (onSite_apply loadConfig),
    (tells_logConfig config).then, Action.bind_of_eq (onSite_apply loadSettings),
    (tells_logSettings settings).then, Action.bind_of_eq (onSite_apply commit)]
  exact ⟨rfl, by simp [Action.pure_apply]⟩

theorem receive_encoded (valid : ∀ x, config = some x → x.Valid)
    (proper : ∀ x, config = some x → x.Proper)
    (fits : ∀ x, config = some x → Payload.SnapshotFits x)
    (readable : ∀ x, config = some x → Payload.CountReadable x)
    (name : Parcel.TextFits settings.p2pDeviceName) (site : τ) :
    (receive (configBytes config) (settingsBytes settings) ⟨false, site⟩).value =
        .ok { config, settings := some settings } ∧
      infoTexts (receive (configBytes config) (settingsBytes settings) ⟨false, site⟩).journal =
        configTexts config ++ [settingsText settings] := by
  have settingsBack : Payload.decodeSettings (settingsBytes settings) = .ok settings :=
    Payload.decodeSettings_eq_ok_iff.2 ⟨name, rfl⟩
  rw [receive_unclaimed, Payload.decodeConfig_configBytes valid proper fits readable, settingsBack]
  exact ⟨rfl, by simp [partEvents]⟩

theorem run_eq_receive
    (delivers : source.Delivers environment s config settings first second third)
    (valid : ∀ x, config = some x → x.Valid) (proper : ∀ x, config = some x → x.Proper)
    (fits : ∀ x, config = some x → Payload.SnapshotFits x)
    (digits : ∀ x r, config = some x → x.accessPoint = some r →
      (Nat.toDigits 10 r.maxClients).length < 4300)
    (name : Parcel.TextFits settings.p2pDeviceName) (site : τ) :
    ∃ c d o, encodeConfig config = .ok c ∧ encodeSettings settings = .ok d ∧
      o.config = config ∧ o.settings = some settings ∧ o.errors = [] ∧
      ((⟨some source, some environment⟩ : Consumer σ).run ⟨false, s⟩).value = .ok o ∧
      (receive c d ⟨false, site⟩).value = .ok o ∧
      infoTexts (receive c d ⟨false, site⟩).journal = configTexts config ++ [settingsText settings] ∧
      infoTexts ((⟨some source, some environment⟩ : Consumer σ).run ⟨false, s⟩).journal =
        infoTexts first ++ configTexts config ++ infoTexts second ++ [settingsText settings] ++
          infoTexts third ∧
      (infoTexts (first ++ second ++ third) = [] →
        infoTexts ((⟨some source, some environment⟩ : Consumer σ).run ⟨false, s⟩).journal =
          infoTexts (receive c d ⟨false, site⟩).journal) := by
  have readable : ∀ x, config = some x → Payload.CountReadable x :=
    fun x hx r hr => Nat.le_of_lt (digits x r hx hr)
  obtain ⟨pulled, journal⟩ := pull_delivered delivers
  have told : infoTexts (pull source environment ⟨false, s⟩).journal =
      infoTexts first ++ configTexts config ++ infoTexts second ++ [settingsText settings] ++
        infoTexts third := by
    rw [journal]
    simp only [infoTexts_append, infoTexts_informed]
  obtain ⟨received, told'⟩ := receive_encoded valid proper fits readable name site
  refine ⟨configBytes config, settingsBytes settings, { config, settings := some settings },
    Payload.encodeConfig_eq_ok_iff.2 ⟨fun x h => ⟨proper x h, fits x h⟩, rfl⟩, Payload.encodeSettings_eq_ok_iff.2 ⟨name, rfl⟩,
    rfl, rfl, rfl, pulled, received, told', told, fun silent => ?_⟩
  simp only [infoTexts_append, List.append_eq_nil_iff] at silent
  obtain ⟨⟨first, second⟩, third⟩ := silent
  refine told.trans ?_
  rw [told', first, second, third, List.nil_append, List.append_nil, List.append_nil]

def cafe : ConfigSnapshot :=
  { savedNetworks := some [{ ssid := "Café" }], accessPoint := some { maxClients := 12 } }

def complaining : Source Unit where
  loadConfig := pure (some cafe)
  loadSettings _ := do
    Action.log .warning "settings are guessed"
    pure { p2pDeviceName := some "" }
  commit := pure ()

def unset : Provider Unit :=
  ⟨fun _ => pure none⟩

theorem run_eq_receive_complaining :
    complaining.Delivers unset () (some cafe) { p2pDeviceName := some "" } []
        [.logged .warning "settings are guessed"] [] ∧
      cafe.Valid ∧ cafe.Proper ∧ Payload.SnapshotFits cafe ∧ Parcel.TextFits (some "") ∧
      ∃ c d o, encodeConfig (some cafe) = .ok c ∧
        encodeSettings { p2pDeviceName := some "" } = .ok d ∧
        ((⟨some complaining, some unset⟩ : Consumer Unit).run ⟨false, ()⟩).value = .ok o ∧
        (receive c d ⟨false, ()⟩).value = .ok o ∧
        infoTexts ((⟨some complaining, some unset⟩ : Consumer Unit).run ⟨false, ()⟩).journal =
          infoTexts (receive c d ⟨false, ()⟩).journal := by
  have delivers : complaining.Delivers unset () (some cafe) { p2pDeviceName := some "" } []
      [.logged .warning "settings are guessed"] [] := ⟨rfl, rfl, rfl⟩
  have valid : cafe.Valid := by
    constructor
    · rintro _ ⟨⟩
      decide
    · rintro _ ⟨⟩
      exact ⟨nofun, by decide⟩
  obtain ⟨proper, fits⟩ : cafe.Proper ∧ Payload.SnapshotFits cafe := by
    refine Payload.proper_and_fits_iff.2 ⟨?_, ?_⟩
    · rintro _ ⟨⟩
      decide +kernel
    · rintro _ ⟨⟩
      decide +kernel
  have name : Parcel.TextFits (some "") := by decide
  obtain ⟨c, d, o, hc, hd, -, -, -, ran, received, -, -, same⟩ := run_eq_receive delivers
    (by rintro _ ⟨⟩; exact valid) (by rintro _ ⟨⟩; exact proper) (by rintro _ ⟨⟩; exact fits)
    (by rintro _ _ ⟨⟩ ⟨⟩; decide) name ()
  exact ⟨delivers, valid, proper, fits, name, c, d, o, hc, hd, ran, received, same rfl⟩

end Consumer

end Handover
