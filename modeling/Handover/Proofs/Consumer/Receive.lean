import Handover.Consumer
import Handover.Proofs.Action
import Handover.Proofs.Transfer.ConfigPayload
import Handover.Proofs.Transfer.SettingsPayload

namespace Handover.Consumer

open Payload (decodeConfig decodeSettings)

variable {σ : Type}

theorem claim_unclaimed {b : Boot σ} (h : b.consumed = false) :
    claim b = ⟨.ok (), ⟨true, b.site⟩, []⟩ := by
  simp [claim, h]

def configTexts : Option ConfigSnapshot → List String
  | none => ["No config store migration needed"]
  | some s => [countText s, accessPointText s]

def informed (texts : List String) : List Event :=
  texts.map (.logged .info)

theorem tells_logConfig (config : Option ConfigSnapshot) :
    Action.Tells (logConfig config : Action (Boot σ) Fault Unit) (informed (configTexts config)) := by
  cases config with
  | none => exact Action.tells_log _ _
  | some s => exact (Action.tells_log _ _).bind (Action.tells_log _ _)

theorem tells_logSettings (settings : SettingsSnapshot) :
    Action.Tells (logSettings settings : Action (Boot σ) Fault Unit)
      (informed [settingsText settings]) :=
  Action.tells_log _ _

def partEvents {α : Type} (part : String) (texts : α → List String) : Except Malformed α → List Event
  | .ok a => informed (texts a)
  | .error e =>
      [.logged .error ("Dropping " ++ part ++ " migration, malformed transfer data: " ++ e.message)]

def entries {α : Type} (label : String) : Except Malformed α → List String
  | .ok _ => []
  | .error e => [label ++ e.message]

def salvaged (config : Except Malformed (Option ConfigSnapshot))
    (settings : Except Malformed SettingsSnapshot) : Outcome where
  config := config.toOption.join
  settings := settings.toOption
  errors := entries "config: " config ++ entries "settings: " settings

theorem receiveConfig_apply (bs : Bytes) (b : Boot σ) :
    receiveConfig bs b =
      ⟨.ok ((decodeConfig bs).toOption.join, entries "config: " (decodeConfig bs)), b,
        partEvents "config" configTexts (decodeConfig bs)⟩ := by
  delta receiveConfig
  cases decodeConfig bs with
  | ok config =>
      dsimp only
      rw [(tells_logConfig config).then]
      simp [Action.pure_apply, partEvents, entries, Except.toOption]
  | error e => rfl

theorem receiveSettings_apply (bs : Bytes) (b : Boot σ) :
    receiveSettings bs b =
      ⟨.ok ((decodeSettings bs).toOption, entries "settings: " (decodeSettings bs)), b,
        partEvents "settings" (fun s => [settingsText s]) (decodeSettings bs)⟩ := by
  delta receiveSettings
  cases decodeSettings bs with
  | ok settings => rfl
  | error e => rfl

theorem receive_unclaimed (config settings : Bytes) (site : σ) :
    receive config settings ⟨false, site⟩ =
      ⟨.ok (salvaged (decodeConfig config) (decodeSettings settings)), ⟨true, site⟩,
        partEvents "config" configTexts (decodeConfig config) ++
          partEvents "settings" (fun s => [settingsText s]) (decodeSettings settings)⟩ := by
  rw [receive, Action.bind_of_eq (claim_unclaimed rfl), Action.bind_of_eq (receiveConfig_apply config _)]
  dsimp only
  rw [Action.bind_of_eq (receiveSettings_apply settings _)]
  simp [Action.pure_apply, salvaged]

def labelled (label : String) (errors : List String) : List String :=
  errors.filter fun e => label.toList.isPrefixOf e.toList

/-- No text after the other label looks like one after the label. -/
def Apart (label other : String) : Prop :=
  ∀ m, label.toList.isPrefixOf (other.toList ++ m) = false

section

variable {α β : Type} {label other : String}

theorem labelled_entries (label : String) (x : Except Malformed α) :
    labelled label (entries label x) = entries label x := by
  cases x with
  | ok a => rfl
  | error e => simp [labelled, entries]

theorem labelled_entries_other (apart : Apart label other) (x : Except Malformed α) :
    labelled label (entries other x) = [] := by
  cases x with
  | ok a => rfl
  | error e => simp [labelled, entries, apart e.message.toList]

theorem labelled_append (label : String) (xs ys : List String) :
    labelled label (xs ++ ys) = labelled label xs ++ labelled label ys :=
  List.filter_append _ _

theorem labelled_first (apart : Apart label other) (x : Except Malformed α)
    (y : Except Malformed β) :
    labelled label (entries label x ++ entries other y) = entries label x := by
  rw [labelled_append, labelled_entries, labelled_entries_other apart, List.append_nil]

theorem labelled_last (apart : Apart label other) (x : Except Malformed α)
    (y : Except Malformed β) :
    labelled label (entries other y ++ entries label x) = entries label x := by
  rw [labelled_append, labelled_entries, labelled_entries_other apart, List.nil_append]

end

theorem labelled_config (config : Except Malformed (Option ConfigSnapshot))
    (settings : Except Malformed SettingsSnapshot) :
    labelled "config: " (salvaged config settings).errors = entries "config: " config :=
  labelled_first (fun _ => rfl) config settings

theorem labelled_settings (config : Except Malformed (Option ConfigSnapshot))
    (settings : Except Malformed SettingsSnapshot) :
    labelled "settings: " (salvaged config settings).errors = entries "settings: " settings :=
  labelled_last (fun _ => rfl) settings config

theorem value_receive (config settings : Bytes) (site : σ) :
    (receive config settings ⟨false, site⟩).value =
      .ok (salvaged (decodeConfig config) (decodeSettings settings)) := by
  rw [receive_unclaimed]

theorem receive_salvages (config settings : Bytes) (site : σ) :
    (receive config settings ⟨false, site⟩).value =
        .ok (salvaged (decodeConfig config) (decodeSettings settings)) ∧
      (∀ e, decodeConfig config = .error e → e.OfBytes) ∧
      (∀ e, decodeSettings settings = .error e → e.OfBytes) ∧
      (∀ other o o', (receive config settings ⟨false, site⟩).value = .ok o →
        (receive config other ⟨false, site⟩).value = .ok o' →
          o'.config = o.config ∧ labelled "config: " o'.errors = labelled "config: " o.errors) ∧
      (∀ other o o', (receive config settings ⟨false, site⟩).value = .ok o →
        (receive other settings ⟨false, site⟩).value = .ok o' →
          o'.settings = o.settings ∧ labelled "settings: " o'.errors = labelled "settings: " o.errors) := by
  refine ⟨value_receive config settings site, fun e => ?_, fun e => ?_, fun other o o' h h' => ?_,
    fun other o o' h h' => ?_⟩
  · exact Payload.malformed_of_decoded Payload.acceptsAll_config
  · exact Payload.malformed_of_decoded Payload.acceptsAll_settings
  · cases (value_receive config settings site).symm.trans h
    cases (value_receive config other site).symm.trans h'
    exact ⟨rfl, (labelled_config _ _).trans (labelled_config _ _).symm⟩
  · cases (value_receive config settings site).symm.trans h
    cases (value_receive other settings site).symm.trans h'
    exact ⟨rfl, (labelled_settings _ _).trans (labelled_settings _ _).symm⟩

end Handover.Consumer
