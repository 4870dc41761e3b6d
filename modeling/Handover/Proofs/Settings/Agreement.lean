import Handover.Proofs.Settings.DeviceCalls
import Handover.Proofs.Settings.Puts
import Handover.Proofs.Text.Trim

namespace Handover

def Event.warning? : Event → Option String
  | .logged .warning text => some text
  | _ => none

def warnings (journal : List Event) : List String :=
  journal.filterMap Event.warning?

theorem warnings_append (before after : List Event) :
    warnings (before ++ after) = warnings before ++ warnings after :=
  List.filterMap_append

namespace Action

variable {σ τ ε α β : Type}

/-- From related states two actions return one value, warn of the same, and end in related states. -/
def Agree (R : σ → τ → Prop) (x : Action σ ε α) (y : Action τ ε α) : Prop :=
  ∀ s t, R s t → ∃ a, (x s).value = .ok a ∧ (y t).value = .ok a ∧ R (x s).state (y t).state ∧
    warnings (x s).journal = warnings (y t).journal

variable {R : σ → τ → Prop}

theorem agree_pure (a : α) : Agree R (pure a : Action σ ε α) (pure a) :=
  fun _ _ related => ⟨a, rfl, rfl, related, rfl⟩

theorem agree_log (level : Level) (text : String) :
    Agree R (log level text : Action σ ε Unit) (log level text) :=
  fun _ _ related => ⟨(), rfl, rfl, related, rfl⟩

theorem Agree.bind {x : Action σ ε α} {y : Action τ ε α} {f : α → Action σ ε β}
    {g : α → Action τ ε β} (h : Agree R x y) (hf : ∀ a, Agree R (f a) (g a)) :
    Agree R (x >>= f) (y >>= g) := by
  intro s t related
  obtain ⟨a, valuex, valuey, related, heard⟩ := h s t related
  obtain ⟨b, valuef, valueg, related, heard'⟩ := hf a _ _ related
  have endsx : x s = ⟨.ok a, (x s).state, (x s).journal⟩ := by rw [← valuex]
  have endsy : y t = ⟨.ok a, (y t).state, (y t).journal⟩ := by rw [← valuey]
  rw [bind_of_eq endsx, bind_of_eq endsy]
  refine ⟨b, valuef, valueg, related, ?_⟩
  rw [warnings_append, warnings_append, heard, heard']

end Action

namespace Provider

variable {σ τ : Type} {R : σ → τ → Prop} {p : Provider σ} {q : Provider τ}

theorem agree_getInt {key : String} (h : Action.Agree R (p.getString key) (q.getString key))
    (default : Int) : Action.Agree R (p.getInt key default) (q.getInt key default) := by
  refine h.bind fun found => ?_
  cases found with
  | none => exact Action.agree_pure default
  | some raw =>
      dsimp only
      cases raw.proper?.bind Number.ofText? with
      | some n => exact Action.agree_pure n
      | none => exact (Action.agree_log _ _).bind fun _ => Action.agree_pure default

theorem agree_getFlag {s : Setting} (h : Action.Agree R (p.getString s.key) (q.getString s.key))
    (default : Bool) : Action.Agree R (p.getFlag s default) (q.getFlag s default) :=
  (agree_getInt h _).bind fun _ => Action.agree_pure _

theorem agree_load
    (h : ∀ s : Setting, Action.Agree R (p.getString s.key) (q.getString s.key)) :
    Action.Agree R p.load q.load := by
  have flag (s default) := agree_getFlag (h s) default
  refine (flag _ _).bind fun _ => (flag _ _).bind fun _ => (h _).bind fun _ => ?_
  refine (flag _ _).bind fun _ => (flag _ _).bind fun _ => (flag _ _).bind fun _ => ?_
  exact (flag _ _).bind fun _ => (Action.agree_log _ _).bind fun _ => Action.agree_pure _

end Provider

namespace Device

variable {d : Device} {serial : Value} {link : DeviceLink} {f : String → String}
  {s : KeyValueStore}

def Reachable (d : Device) (link : DeviceLink) : Prop :=
  link.held = true ∨ ∀ calls, ∃ name, d.connect calls = .ok name

/-- A store has what the outputs for the settings' keys say, trimmed: nothing for one that is blank
or `null`. -/
def Mirrors (s : KeyValueStore) (f : String → String) : Prop :=
  ∀ (setting : Setting) (text : String), Text.Trimmed (f setting.key) text →
    s.get? setting.key = if text = "" ∨ text = "null" then none else some (.proper text)

theorem value?_eq (output : String) :
    value? output = if Text.trim output = "" ∨ Text.trim output = "null" then none
      else some (.proper (Text.trim output)) :=
  rfl

theorem agree_getString (serial : Value)
    (answers : ∀ calls (setting : Setting),
      d.shell calls (command setting.key) = .ok (f setting.key))
    (mirrors : Mirrors s f) (setting : Setting) :
    Action.Agree (fun link t => d.Reachable link ∧ t = s)
      ((d.provider serial).getString setting.key)
      (KeyValueStore.provider.getString setting.key) := by
  rintro ⟨held, calls⟩ _ ⟨reachable, rfl⟩
  have stored := mirrors setting _ (Text.trimmed_iff.2 rfl)
  rw [← value?_eq] at stored
  rw [getString_eq, KeyValueStore.getString_apply, stored]
  cases held with
  | true =>
      rw [Action.bind_of_eq (hold_held d serial calls), readHeld_answered (answers calls setting)]
      exact ⟨_, rfl, rfl, ⟨.inl rfl, rfl⟩, rfl⟩
  | false =>
      obtain ⟨⟨⟩⟩ | connects := reachable
      obtain ⟨name, replied⟩ := connects calls
      rw [Action.bind_of_eq (hold_connected replied), readHeld_answered (answers _ setting)]
      exact ⟨_, rfl, rfl, ⟨.inl rfl, rfl⟩, rfl⟩

theorem load_mirrors (reachable : d.Reachable link)
    (answers : ∀ calls (setting : Setting),
      d.shell calls (command setting.key) = .ok (f setting.key))
    (mirrors : Mirrors s f) :
    ∃ x, ((d.provider serial).load link).value = .ok x ∧
      (KeyValueStore.provider.load s).value = .ok x ∧
      warnings ((d.provider serial).load link).journal =
        warnings (KeyValueStore.provider.load s).journal := by
  have agree := Provider.agree_load (agree_getString serial answers mirrors)
  obtain ⟨x, device, store, -, heard⟩ := agree link s ⟨reachable, rfl⟩
  exact ⟨x, device, store, heard⟩

def blankOutput : String → String
  | "settings get global wifi_scan_always_enabled" => " +1\n"
  | "settings get global wifi_p2p_device_name" => "\tGalaxy S10 \r\n"
  | "settings get global soft_ap_timeout_enabled" => "null \n"
  | "settings get global wifi_wakeup_enabled" => "\u00a0yes\n"
  | _ => " \n"

def blankDevice : Device :=
  ⟨fun _ => .ok "emulator", fun _ command => .ok (blankOutput command)⟩

def blankMirror : KeyValueStore :=
  KeyValueStore.filled [("wifi_scan_always_enabled", .text "+1"),
    ("wifi_p2p_device_name", .text "Galaxy S10"), ("wifi_wakeup_enabled", .text "yes")] []

theorem load_mirrors_blank :
    blankDevice.Reachable {} ∧ Mirrors blankMirror (fun key => blankOutput (command key)) ∧
      ∃ x, ((blankDevice.provider .null).load {}).value = .ok x ∧
        (KeyValueStore.provider.load blankMirror).value = .ok x ∧
        warnings ((blankDevice.provider .null).load {}).journal =
          warnings (KeyValueStore.provider.load blankMirror).journal := by
  have reachable : blankDevice.Reachable {} := .inr fun _ => ⟨_, rfl⟩
  have mirrors : Mirrors blankMirror (fun key => blankOutput (command key)) := by
    intro setting text trimmed
    rw [Text.trimmed_iff.1 trimmed]
    cases setting <;> decide
  exact ⟨reachable, mirrors, load_mirrors reachable (fun _ _ => rfl) mirrors⟩

end Device

end Handover
