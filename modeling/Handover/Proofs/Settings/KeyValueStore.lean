import Handover.Proofs.Action
import Handover.Proofs.Settings.Fields
import Handover.Settings.KeyValueStore
import Mathlib.Data.List.Nodup

namespace Handover

theorem Setting.key_injective : Function.Injective key := by
  intro x y same
  have distinct : (all.map key).Nodup := by decide
  exact List.inj_on_of_nodup_map distinct x.mem_all y.mem_all same

namespace KeyValueStore

theorem get?_putAll_of_notMem {entries : List (String × Value)} {key : String}
    (h : key ∉ entries.map Prod.fst) (s : KeyValueStore) :
    (s.putAll entries).get? key = s.get? key := by
  induction entries generalizing s with
  | nil => rfl
  | cons e rest ih =>
      rw [List.map_cons, List.mem_cons, not_or] at h
      rw [putAll, ih h.2, get?_put, if_neg h.1]

theorem get?_putAll_of_mem {entries : List (String × Value)} {key : String} {v : Value}
    (distinct : (entries.map Prod.fst).Nodup) (h : (key, v) ∈ entries) (s : KeyValueStore) :
    (s.putAll entries).get? key = stored? v := by
  induction entries generalizing s with
  | nil => cases h
  | cons e rest ih =>
      obtain ⟨apart, later⟩ := List.nodup_cons.1 distinct
      rcases List.mem_cons.1 h with rfl | mem
      · rw [putAll, get?_putAll_of_notMem apart, get?_put, if_pos rfl]
      · rw [putAll]
        exact ih later mem _

variable {s : KeyValueStore}

theorem getString_apply (key : String) (s : KeyValueStore) :
    provider.getString key s = ⟨.ok (s.get? key), s, []⟩ :=
  rfl

theorem getFlag_stored {setting : Setting} {b : Bool}
    (h : s.get? setting.key = stored? (.bool b)) (default : Bool) :
    provider.getFlag setting default s = ⟨.ok b, s, []⟩ := by
  have found : provider.getString setting.key s =
      ⟨.ok (some (.proper (if b then "1" else "0"))), s, []⟩ := by
    rw [getString_apply, h, stored?]
  have digit : Number.ofText? (if b then "1" else "0") = some (if b then 1 else 0) := by
    cases b <;> rfl
  simp only [Provider.getFlag, Provider.getInt, Action.bind_apply, found, Text.proper?,
    Option.bind_some, digit, Action.pure_apply]
  cases b <;> rfl

theorem getString_stored {key : String} {name : Option Text}
    (h : s.get? key = stored? (SettingsSnapshot.nameValue name)) :
    provider.getString key s = ⟨.ok name, s, []⟩ := by
  rw [getString_apply, h]
  cases name <;> rfl

def Holds (s : KeyValueStore) (x : SettingsSnapshot) : Prop :=
  ∀ setting : Setting, s.get? setting.key = stored? (x.get setting)

def loaded (x : SettingsSnapshot) : Event :=
  .logged .debug ("Loaded settings snapshot: " ++ x.display)

theorem load_of_holds {x : SettingsSnapshot} (h : s.Holds x) :
    provider.load s = ⟨.ok x, s, [loaded x]⟩ := by
  have flag {setting b} (read : x.get setting = .bool b) (default : Bool) :
      provider.getFlag setting default s = ⟨.ok b, s, []⟩ :=
    getFlag_stored ((h setting).trans (congrArg stored? read)) default
  have name : provider.getString Setting.p2pDeviceName.key s = ⟨.ok x.p2pDeviceName, s, []⟩ :=
    getString_stored (h .p2pDeviceName)
  rw [Provider.load]
  iterate 2 rw [Action.bind_of_eq (flag rfl _)]
  rw [Action.bind_of_eq name]
  iterate 4 rw [Action.bind_of_eq (flag rfl _)]
  rfl

def entriesOf (x : SettingsSnapshot) (order : List Setting) : List (String × Value) :=
  order.map fun setting => (setting.key, x.get setting)

theorem holds_putAll {order : List Setting} (perm : order.Perm Setting.all) (prior : KeyValueStore)
    (x : SettingsSnapshot) : (prior.putAll (entriesOf x order)).Holds x := by
  intro setting
  have keys : (entriesOf x order).map Prod.fst = order.map Setting.key := by
    simp [entriesOf]
  apply get?_putAll_of_mem
  · rw [keys]
    exact (perm.nodup_iff.2 Setting.nodup_all).map Setting.key_injective
  · exact List.mem_map_of_mem (perm.mem_iff.2 setting.mem_all)

theorem load_putAll {order : List Setting} (perm : order.Perm Setting.all) (prior : KeyValueStore)
    (x : SettingsSnapshot) :
    provider.load (prior.putAll (entriesOf x order)) =
      ⟨.ok x, prior.putAll (entriesOf x order), [loaded x]⟩ :=
  load_of_holds (holds_putAll perm prior x)

theorem load_putAll_nameless :
    Setting.all.reverse.Perm Setting.all ∧
      (provider.load ((ofMapping [(.text "wifi_p2p_device_name", .text "old"),
        (.text "wifi_scan_throttle_enabled", .text "maybe")]).putAll
          (entriesOf { scanThrottleEnabled := false } Setting.all.reverse))).value =
        .ok { scanThrottleEnabled := false } := by
  have perm : Setting.all.reverse.Perm Setting.all := List.reverse_perm _
  refine ⟨perm, ?_⟩
  rw [load_putAll perm]

end KeyValueStore

end Handover
