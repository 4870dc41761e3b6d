import Handover.Proofs.Settings.Fields
import Handover.Proofs.Snapshot.Form
import Handover.Snapshot.Config

namespace Handover

inductive Value.Sequence : Value → List Value → Prop where
  | list (items : List Value) : Sequence (.list items) items
  | tuple (items : List Value) : Sequence (.tuple items) items
  | byteArray (bs : Bytes) : Sequence (.byteArray bs) (bs.map fun b => .int b.toNat)
  | other (f : Foreign) (items : List Value) : Sequence (.sequence f items) items

theorem Value.Sequence.held {v : Value} {items : List Value} (h : v.Sequence items) :
    v.held = .tuple items := by
  cases h <;> rfl

inductive ConfigField where
  | savedNetworks
  | accessPoint
  deriving DecidableEq, Repr

namespace ConfigField

def all : List ConfigField := [savedNetworks, accessPoint]

def name : ConfigField → String
  | savedNetworks => "saved_networks"
  | accessPoint => "ap_configuration"

def Admits : ConfigField → Value → Prop
  | savedNetworks, v => ∃ rs : List NetworkRecord, v.Sequence (rs.map .network)
  | accessPoint, v => ∃ r, v = .accessPoint r

end ConfigField

theorem networkList_eq_ok_iff {index : Nat} {items : List Value} {rs : List NetworkRecord} :
    networkList index items = .ok rs ↔ items = rs.map .network := by
  induction items generalizing index rs with
  | nil => cases rs <;> simp [networkList]
  | cons v rest ih =>
      cases v with
      | network r =>
          cases rs with
          | nil =>
              rw [networkList]
              cases networkList (index + 1) rest <;> simp
          | cons a rs =>
              rw [networkList, List.map_cons, List.cons.injEq, Value.network.injEq,
                ← @ih (index + 1)]
              cases networkList (index + 1) rest <;> simp
      | _ => cases rs <;> simp [networkList]

theorem sequence?_eq_some_iff {v : Value} {items : List Value} :
    sequence? v = some items ↔ v.Sequence items := by
  constructor
  · intro h
    cases v <;> cases h
    · exact .byteArray _
    · exact .list _
    · exact .tuple _
    · exact .other _ _
  · rintro (_ | _ | _ | _) <;> rfl

theorem networksOf_eq_ok_iff {v : Value} {rs : List NetworkRecord} :
    networksOf v = .ok rs ↔ v.Sequence (rs.map .network) := by
  rw [← sequence?_eq_some_iff]
  unfold networksOf
  split
  · simp [sequence?]
  · cases sequence? v <;> simp [networkList_eq_ok_iff]

theorem accessPointOf_eq_ok_iff {v : Value} {r : AccessPointRecord} :
    accessPointOf v = .ok r ↔ v = .accessPoint r := by
  cases v <;> simp [accessPointOf]

namespace ConfigSnapshot

def get (s : ConfigSnapshot) : ConfigField → Value
  | .savedNetworks => s.savedNetworks.elim .null fun rs => .tuple (rs.map .network)
  | .accessPoint => s.accessPoint.elim .null .accessPoint

theorem eq_of_get {s t : ConfigSnapshot} (same : ∀ field, s.get field = t.get field) : s = t := by
  obtain ⟨rs, r⟩ := s
  obtain ⟨rs', r'⟩ := t
  have networks := same .savedNetworks
  have accessPoint := same .accessPoint
  have network_injective : Function.Injective Value.network := fun _ _ => Value.network.inj
  congr
  · cases rs <;> cases rs' <;> simp_all [get, network_injective.list_map.eq_iff]
  · cases r <;> cases r' <;> simp_all [get]

namespace Builder

def set (b : Builder) : ConfigField → Value → Except InvalidArgument Builder
  | .savedNetworks => b.setSavedNetworks
  | .accessPoint => b.setAccessPoint

theorem setSavedNetworks_eq (b : Builder) (v : Value) :
    b.setSavedNetworks v = (networksOf v).map fun rs => { b with savedNetworks := some rs } := by
  rw [setSavedNetworks]
  cases networksOf v <;> rfl

theorem setAccessPoint_eq (b : Builder) (v : Value) :
    b.setAccessPoint v = (accessPointOf v).map fun r => { b with accessPoint := some r } := by
  rw [setAccessPoint]
  cases accessPointOf v <;> rfl

theorem set_iff {b : Builder} {field : ConfigField} {v : Value} :
    (∃ c, b.set field v = .ok c) ↔ field.Admits v := by
  cases field with
  | savedNetworks =>
      rw [ConfigField.Admits, set, setSavedNetworks_eq]
      simp [Except.map_eq_ok_iff, networksOf_eq_ok_iff]
  | accessPoint =>
      rw [ConfigField.Admits, set, setAccessPoint_eq]
      simp [Except.map_eq_ok_iff, accessPointOf_eq_ok_iff]

theorem refused {b : Builder} {field : ConfigField} {v : Value} {e : InvalidArgument}
    (h : b.set field v = .error e) (c : Builder) : c.set field v = .error e := by
  cases field with
  | savedNetworks =>
      rw [set, setSavedNetworks_eq, Except.map_eq_error_iff] at h ⊢
      exact h
  | accessPoint =>
      rw [set, setAccessPoint_eq, Except.map_eq_error_iff] at h ⊢
      exact h

theorem get_set {b c : Builder} {field : ConfigField} {v : Value} (h : b.set field v = .ok c)
    (other : ConfigField) :
    c.build.get other = if other = field then v.held else b.build.get other := by
  cases field with
  | savedNetworks =>
      rw [set, setSavedNetworks_eq, Except.map_eq_ok_iff] at h
      obtain ⟨rs, read, rfl⟩ := h
      cases other with
      | savedNetworks => exact (networksOf_eq_ok_iff.1 read).held.symm
      | accessPoint => rfl
  | accessPoint =>
      rw [set, setAccessPoint_eq, Except.map_eq_ok_iff] at h
      obtain ⟨r, read, rfl⟩ := h
      cases other with
      | savedNetworks => rfl
      | accessPoint =>
          rw [accessPointOf_eq_ok_iff.1 read]
          rfl

end Builder

def form : Form ConfigField Builder ConfigSnapshot where
  fields := ConfigField.all
  name := ConfigField.name
  fresh := {}
  set := Builder.set
  build := Builder.build
  get := get
  construct := ofEntries
  Admits := ConfigField.Admits
  counts
    | .null => false
    | _ => true

theorem given_of_ne_null {α : Type} (read : Value → Except InvalidArgument α) {v : Value}
    (h : v ≠ .null) : given read v = (read v).map some := by
  rw [given]
  · cases read v <;> rfl
  · exact h

theorem given_eq {α : Type} (read : Value → Except InvalidArgument α) (found : Option Value) :
    given read (found.getD .null) =
      match found.filter form.counts with
      | none => .ok none
      | some v => (read v).map some := by
  cases found with
  | none => rfl
  | some v =>
      cases v with
      | null => rfl
      | _ => exact given_of_ne_null read nofun

theorem ofEntries_eq {entries : List (String × Value)}
    (known : ∀ e ∈ entries, ∃ field, e.1 = form.name field) :
    ofEntries entries =
      ((form.setGiven (form.given entries) form.fields form.fresh).map form.build).mapError
        .refused := by
  have none_unknown : (entries.find? fun e => !fieldNames.contains e.1) = none := by
    rw [List.find?_eq_none]
    intro e mem
    obtain ⟨field, named⟩ := known e mem
    rw [named]
    cases field <;> decide
  have networks : (Field.last? "saved_networks" entries).filter form.counts =
      form.given entries .savedNetworks := rfl
  have accessPoint : (Field.last? "ap_configuration" entries).filter form.counts =
      form.given entries .accessPoint := rfl
  have fields : form.fields = [.savedNetworks, .accessPoint] := rfl
  have set (b : Builder) (field : ConfigField) (v : Value) : form.set b field v = b.set field v := rfl
  rw [ofEntries, none_unknown]
  dsimp only
  rw [make, given_eq, given_eq, networks, accessPoint, fields]
  simp only [Form.setGiven, set, Builder.set, Builder.setSavedNetworks_eq, Builder.setAccessPoint_eq]
  cases form.given entries .savedNetworks with
  | none =>
      cases form.given entries .accessPoint with
      | none => rfl
      | some w =>
          dsimp only
          cases accessPointOf w <;> rfl
  | some v =>
      dsimp only
      cases networksOf v with
      | error e => rfl
      | ok rs =>
          cases form.given entries .accessPoint with
          | none => rfl
          | some w =>
              dsimp only [Except.map]
              cases accessPointOf w <;> rfl

theorem form_lawful : form.Lawful where
  nodup := by decide
  complete field := by cases field <;> decide
  injective := by
    intro x y same
    cases x <;> cases y <;> first | rfl | exact absurd same (by decide)
  ext := eq_of_get
  get_set := Builder.get_set
  set_iff := Builder.set_iff
  refused := Builder.refused
  construct := ofEntries_eq
  settable s field := by
    obtain ⟨rs, r⟩ := s
    cases field with
    | savedNetworks =>
        cases rs with
        | none => rfl
        | some rs => exact ⟨rs, .tuple _⟩
    | accessPoint =>
        cases r with
        | none => rfl
        | some r => exact ⟨r, rfl⟩
  held_get s field := by
    obtain ⟨rs, r⟩ := s
    cases field with
    | savedNetworks => cases rs <;> rfl
    | accessPoint => cases r <;> rfl

end ConfigSnapshot

namespace SettingsSnapshot

theorem set_refused {s : SettingsSnapshot} {setting : Setting} {v : Value} {e : InvalidArgument}
    (h : s.set setting v = .error e) (t : SettingsSnapshot) : t.set setting v = .error e := by
  cases setting with
  | _ =>
      rw [set, Except.map_eq_error_iff] at h ⊢
      exact h

theorem admits_get (s : SettingsSnapshot) (setting : Setting) : setting.Admits (s.get setting) := by
  cases setting with
  | p2pDeviceName =>
      rw [get]
      cases s.p2pDeviceName <;> trivial
  | _ => trivial

theorem held_get (s : SettingsSnapshot) (setting : Setting) :
    (s.get setting).held = s.get setting := by
  cases setting with
  | p2pDeviceName =>
      rw [get]
      cases s.p2pDeviceName <;> rfl
  | _ => rfl

theorem held_of_admits {setting : Setting} {v : Value} (h : setting.Admits v) :
    v.held = v.kept := by
  cases v with
  | list items => cases setting <;> exact h.elim
  | sequence f items => cases setting <;> exact h.elim
  | byteArray bs => cases setting <;> exact h.elim
  | _ => rfl

namespace Builder

theorem set_eq (b : Builder) (setting : Setting) (v : Value) :
    b.set setting v = (b.values.set setting v).map mk := by
  rw [set]
  cases b.values.set setting v <;> rfl

theorem set_iff {b : Builder} {setting : Setting} {v : Value} :
    (∃ c, b.set setting v = .ok c) ↔ setting.Admits v := by
  rw [← set_accepts_iff (s := b.values)]
  simp [set_eq, Except.map_eq_ok_iff]

theorem get_set {b c : Builder} {setting : Setting} {v : Value} (h : b.set setting v = .ok c)
    (other : Setting) :
    c.build.get other = if other = setting then v.held else b.build.get other := by
  rw [held_of_admits (set_iff.1 ⟨c, h⟩)]
  rw [set_eq, Except.map_eq_ok_iff] at h
  obtain ⟨s, made, rfl⟩ := h
  exact SettingsSnapshot.get_set made other

theorem refused {b : Builder} {setting : Setting} {v : Value} {e : InvalidArgument}
    (h : b.set setting v = .error e) (c : Builder) : c.set setting v = .error e := by
  rw [set_eq, Except.map_eq_error_iff] at h ⊢
  exact set_refused h c.values

end Builder

def form : Form Setting Builder SettingsSnapshot where
  fields := Setting.all
  name := Setting.name
  fresh := {}
  set := Builder.set
  build := Builder.build
  get := get
  construct := ofEntries
  Admits := Setting.Admits
  counts _ := true

theorem setGiven_eq (given : Setting → Option Value) (settings : List Setting) (b : Builder) :
    (form.setGiven given settings b).map form.build = setAll given b.values settings := by
  induction settings generalizing b with
  | nil => rfl
  | cons setting rest ih =>
      rw [Form.setGiven, setAll]
      cases given setting with
      | none => exact ih b
      | some v =>
          have set : form.set b setting v = (b.values.set setting v).map Builder.mk :=
            Builder.set_eq b setting v
          dsimp only
          rw [set]
          cases b.values.set setting v with
          | error e => rfl
          | ok s => exact ih ⟨s⟩

theorem ofEntries_eq {entries : List (String × Value)}
    (known : ∀ e ∈ entries, ∃ setting, e.1 = form.name setting) :
    ofEntries entries =
      ((form.setGiven (form.given entries) form.fields form.fresh).map form.build).mapError
        .refused := by
  have none_unknown : (entries.find? fun e => (Setting.ofName? e.1).isNone) = none := by
    rw [List.find?_eq_none]
    intro e mem
    obtain ⟨setting, named⟩ := known e mem
    rw [Setting.ofName?_eq_some_iff.2 named]
    exact Bool.false_ne_true
  have given : form.given entries = fun setting => Field.last? setting.name entries := by
    funext setting
    rw [Form.given]
    change (Field.last? setting.name entries).filter (fun _ => true) = _
    cases Field.last? setting.name entries <;> rfl
  rw [ofEntries, none_unknown, setGiven_eq, given]
  change _ = (setAll _ {} Setting.all).mapError _
  dsimp only
  cases setAll (fun setting => Field.last? setting.name entries) {} Setting.all <;> rfl

theorem form_lawful : form.Lawful where
  nodup := Setting.nodup_all
  complete := Setting.mem_all
  injective _ _ := Setting.name_injective
  ext := eq_of_get
  get_set := Builder.get_set
  set_iff := Builder.set_iff
  refused := Builder.refused
  construct := ofEntries_eq
  settable := admits_get
  held_get := held_get

end SettingsSnapshot

theorem builders_keepLast :
    ConfigSnapshot.form.KeepsLast {} (fun _ => .null) ∧
    SettingsSnapshot.form.KeepsLast {} Setting.default ∧
    ∀ s : SettingsSnapshot, SettingsSnapshot.form.KeepsLast (.ofSnapshot s) s.get := by
  refine ⟨?_, ?_, ?_⟩
  · apply ConfigSnapshot.form_lawful.keepsLast
    intro field
    cases field <;> rfl
  · exact SettingsSnapshot.form_lawful.keepsLast SettingsSnapshot.get_default
  · intro s
    exact SettingsSnapshot.form_lawful.keepsLast fun _ => rfl

theorem constructors_agree :
    (∀ args, (args.map Prod.fst).Nodup → ConfigSnapshot.form.Agrees args) ∧
    (∀ args, (args.map Prod.fst).Nodup → SettingsSnapshot.form.Agrees args) :=
  ⟨fun _ => ConfigSnapshot.form_lawful.agrees, fun _ => SettingsSnapshot.form_lawful.agrees⟩

theorem constructors_agree_two_refused :
    ConfigSnapshot.form.Agrees [(.accessPoint, .text "ap"), (.savedNetworks, .text "HomeNet")] ∧
    ConfigSnapshot.ofEntries
        [("ap_configuration", .text "ap"), ("saved_networks", .text "HomeNet")] =
      .error (.refused (.networksOfType "str")) ∧
    SettingsSnapshot.form.Agrees [(.verboseLoggingEnabled, .null), (.wakeupEnabled, .int 1)] ∧
    SettingsSnapshot.ofEntries [("verbose_logging_enabled", .null), ("wakeup_enabled", .int 1)] =
      .error (.refused (.flagOfType .wakeupEnabled "int")) :=
  ⟨constructors_agree.1 _ (by decide), by rfl, constructors_agree.2 _ (by decide), by rfl⟩

end Handover
