import Handover.Proofs.Except
import Handover.Snapshot.Settings

namespace Handover

namespace Setting

def default (setting : Setting) : Value :=
  match setting.kind with
  | .flag b => .bool b
  | .name => .null

def Admits (setting : Setting) (v : Value) : Prop :=
  match setting.kind, v with
  | .flag _, .bool _ => True
  | .name, .null => True
  | .name, .text _ => True
  | .name, .derived _ _ => True
  | _, _ => False

theorem nodup_all : all.Nodup := by
  decide

theorem ofName?_name (setting : Setting) : ofName? setting.name = some setting := by
  cases setting <;> rfl

theorem ofName?_eq_some_iff {s : String} {setting : Setting} :
    ofName? s = some setting ↔ s = setting.name := by
  constructor
  · intro found
    have named : (setting.name == s) = true := List.find?_some (p := fun x => name x == s) found
    exact (beq_iff_eq.1 named).symm
  · rintro rfl
    exact ofName?_name setting

theorem name_injective {x y : Setting} (h : x.name = y.name) : x = y :=
  Option.some.inj ((ofName?_eq_some_iff.2 h).symm.trans (ofName?_name x)).symm

theorem eq_of_key {x y : Setting} (h : Value.text x.name = .text y.name) : x = y := by
  simp only [Value.text.injEq, Text.proper.injEq] at h
  exact name_injective h

end Setting

/-- What a field holds of a value: of an object derived from text, the text that it is equal to. -/
def Value.kept : Value → Value
  | .derived _ t => .text t
  | v => v

theorem Value.kept_of_ne_derived {v : Value} (h : ∀ f t, v ≠ .derived f t) : v.kept = v := by
  cases v with
  | derived f t => exact absurd rfl (h f t)
  | _ => rfl

namespace SettingsSnapshot

theorem eq_of_get {x y : SettingsSnapshot} (h : ∀ setting, x.get setting = y.get setting) :
    x = y := by
  have name : nameValue x.p2pDeviceName = nameValue y.p2pDeviceName := h .p2pDeviceName
  have same : x.p2pDeviceName = y.p2pDeviceName := by
    cases hx : x.p2pDeviceName <;> cases hy : y.p2pDeviceName <;> simp_all [nameValue]
  have flag {a b : Bool} (h : Value.bool a = .bool b) : a = b := Value.bool.inj h
  obtain ⟨a, b, c, d, e, f, g⟩ := x
  obtain ⟨a', b', c', d', e', f', g'⟩ := y
  cases flag (h .scanAlwaysAvailable)
  cases flag (h .p2pFactoryResetPending)
  cases flag (h .softApTimeoutEnabled)
  cases flag (h .wakeupEnabled)
  cases flag (h .scanThrottleEnabled)
  cases flag (h .verboseLoggingEnabled)
  cases same
  rfl

theorem get_default (setting : Setting) : ({} : SettingsSnapshot).get setting = setting.default := by
  cases setting <;> rfl

theorem flagOf_eq_ok_iff {setting : Setting} {v : Value} {b : Bool} :
    flagOf setting v = .ok b ↔ v = .bool b := by
  cases v <;> simp [flagOf]

theorem nameValue_of_nameOf {setting : Setting} {v : Value} {n : Option Text}
    (h : nameOf setting v = .ok n) : nameValue n = v.kept := by
  unfold nameOf at h
  split at h
  all_goals
    cases h
    try rfl

theorem get_set {s s' : SettingsSnapshot} {setting : Setting} {v : Value}
    (h : s.set setting v = .ok s') (other : Setting) :
    s'.get other = if other = setting then v.kept else s.get other := by
  cases setting with
  | p2pDeviceName =>
      obtain ⟨n, named, rfl⟩ := Except.map_eq_ok_iff.1 h
      cases other with
      | p2pDeviceName => exact nameValue_of_nameOf named
      | _ => rfl
  | _ =>
      obtain ⟨b, flagged, rfl⟩ := Except.map_eq_ok_iff.1 h
      rw [flagOf_eq_ok_iff] at flagged
      cases flagged
      cases other <;> rfl

theorem set_accepts_iff {s : SettingsSnapshot} {setting : Setting} {v : Value} :
    (∃ s', s.set setting v = .ok s') ↔ setting.Admits v := by
  cases setting with
  | p2pDeviceName =>
      simp only [set, Except.map_eq_ok_iff]
      cases v <;> simp [nameOf, Setting.Admits, Setting.kind]
  | _ =>
      simp only [set, Except.map_eq_ok_iff, flagOf_eq_ok_iff]
      cases v <;> simp [Setting.Admits, Setting.kind]

end SettingsSnapshot

end Handover
