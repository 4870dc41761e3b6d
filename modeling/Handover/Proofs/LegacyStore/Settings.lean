import Handover.Proofs.LegacyStore.Contents
import Handover.Proofs.LegacyStore.Faults
import Handover.Proofs.Settings.Fields

namespace Handover.LegacyStore

open Value (Distinct)

def Admitted (m : List (Value × Value)) : Prop :=
  ∀ k v, (k, v) ∈ m → ∃ setting : Setting, k = .text setting.name ∧ setting.Admits v

/-- Settings that entries name are as stored there, in whatever order, and all others as in a base. -/
structure Overlays (base : Setting → Value) (m : List (Value × Value))
    (x : SettingsSnapshot) : Prop where
  admitted : Admitted m
  named : ∀ setting v, (.text setting.name, v) ∈ m → x.get setting = v
  others : ∀ setting, (∀ v, (.text setting.name, v) ∉ m) → x.get setting = base setting

theorem overlays_nil_iff {s x : SettingsSnapshot} : Overlays s.get [] x ↔ x = s := by
  constructor
  · intro laid
    exact SettingsSnapshot.eq_of_get fun setting => laid.others setting (by simp)
  · rintro rfl
    exact ⟨nofun, nofun, fun _ _ => rfl⟩

/-- Entries as a document gives them: keys are distinct, and texts are plain ones. -/
structure InDocument (m : List (Value × Value)) : Prop where
  distinct : Distinct m
  plain : ∀ e ∈ m, ∀ f t, e.2 ≠ .derived f t

theorem InDocument.tail {e : Value × Value} {m : List (Value × Value)} (h : InDocument (e :: m)) :
    InDocument m :=
  ⟨(List.pairwise_cons.1 h.distinct).2, fun e mem => h.plain e (List.mem_cons_of_mem _ mem)⟩

section

variable {s s' x : SettingsSnapshot} {setting : Setting} {v : Value} {rest : List (Value × Value)}

theorem InDocument.get_set (documented : InDocument ((.text setting.name, v) :: rest))
    (made : s.set setting v = .ok s') (other : Setting) :
    s'.get other = if other = setting then v else s.get other := by
  rw [SettingsSnapshot.get_set made,
    Value.kept_of_ne_derived (documented.plain _ List.mem_cons_self)]

theorem eq_of_entry {other : Setting} {w : Value}
    (same : ((.text other.name, w) : Value × Value) = (.text setting.name, v)) :
    other = setting ∧ w = v := by
  obtain ⟨name, value⟩ := Prod.mk.inj same
  exact ⟨Setting.eq_of_key name, value⟩

theorem Overlays.cons (documented : InDocument ((.text setting.name, v) :: rest))
    (made : s.set setting v = .ok s') (laid : Overlays s'.get rest x) :
    Overlays s.get ((.text setting.name, v) :: rest) x := by
  have absent (w : Value) : (.text setting.name, w) ∉ rest := documented.distinct.notMem_tail
  have update := documented.get_set made
  constructor
  · intro k w mem
    rcases List.mem_cons.1 mem with same | later
    · cases same
      exact ⟨setting, rfl, SettingsSnapshot.set_accepts_iff.1 ⟨s', made⟩⟩
    · exact laid.admitted k w later
  · intro other w mem
    rcases List.mem_cons.1 mem with same | later
    · obtain ⟨rfl, rfl⟩ := eq_of_entry same
      rw [laid.others other absent, update, if_pos rfl]
    · exact laid.named other w later
  · intro other missing
    have apart : other ≠ setting := by
      rintro rfl
      exact missing v List.mem_cons_self
    have later (w : Value) : (.text other.name, w) ∉ rest :=
      fun mem => missing w (List.mem_cons_of_mem _ mem)
    rw [laid.others other later, update, if_neg apart]

theorem Overlays.uncons (documented : InDocument ((.text setting.name, v) :: rest))
    (made : s.set setting v = .ok s') (laid : Overlays s.get ((.text setting.name, v) :: rest) x) :
    Overlays s'.get rest x := by
  constructor
  · exact fun k w mem => laid.admitted k w (List.mem_cons_of_mem _ mem)
  · exact fun other w mem => laid.named other w (List.mem_cons_of_mem _ mem)
  · intro other missing
    rw [documented.get_set made]
    split
    · next same =>
        rw [same]
        exact laid.named setting v List.mem_cons_self
    · next apart =>
        refine laid.others other fun w mem => ?_
        rcases List.mem_cons.1 mem with same | later
        · exact apart (eq_of_entry same).1
        · exact missing w later

end

theorem namesSetting_iff {k : Value} :
    namesSetting k = true ↔ ∃ setting : Setting, k = .text setting.name := by
  unfold namesSetting
  split
  · next s => simp [Option.isSome_iff_exists, Setting.ofName?_eq_some_iff]
  · next other =>
      refine iff_of_false nofun ?_
      rintro ⟨setting, rfl⟩
      exact other _ rfl

theorem setAll_eq_ok_iff {s x : SettingsSnapshot} {m : List (Value × Value)}
    (documented : InDocument m) (known : ∀ e ∈ m, namesSetting e.1 = true) :
    setAll s m = .ok x ↔ Overlays s.get m x := by
  -- Each step moves the first entry into the base; under distinct keys no later one overwrites it.
  fun_induction setAll s m with
  | case1 s =>
      rw [overlays_nil_iff]
      exact ⟨fun h => (Except.ok.inj h).symm, fun h => h ▸ rfl⟩
  | case2 s name v rest unknown ih =>
      have named := known _ List.mem_cons_self
      simp [namesSetting, unknown] at named
  | case3 s name v rest setting found s' made ih =>
      cases Setting.ofName?_eq_some_iff.1 found
      rw [ih documented.tail fun e mem => known e (List.mem_cons_of_mem _ mem)]
      exact ⟨.cons documented made, .uncons documented made⟩
  | case4 s name v rest setting found e refused =>
      cases Setting.ofName?_eq_some_iff.1 found
      refine iff_of_false (by rintro ⟨⟩) fun laid => ?_
      obtain ⟨other, same, admits⟩ := laid.admitted _ _ List.mem_cons_self
      rw [← Setting.eq_of_key same, ← SettingsSnapshot.set_accepts_iff (s := s)] at admits
      obtain ⟨s', made⟩ := admits
      cases made.symm.trans refused
  | case5 s e rest other ih =>
      obtain ⟨setting, same⟩ := namesSetting_iff.1 (known _ List.mem_cons_self)
      exact (other setting.name e.2 (Prod.ext same rfl)).elim

theorem exists_overlays {s : SettingsSnapshot} {m : List (Value × Value)}
    (documented : InDocument m) (admitted : Admitted m) : ∃ x, Overlays s.get m x := by
  induction m generalizing s with
  | nil => exact ⟨s, overlays_nil_iff.2 rfl⟩
  | cons e rest ih =>
      obtain ⟨k, v⟩ := e
      obtain ⟨setting, rfl, admits⟩ := admitted k v List.mem_cons_self
      obtain ⟨s', made⟩ := SettingsSnapshot.set_accepts_iff (s := s).2 admits
      obtain ⟨x, laid⟩ := ih (s := s') documented.tail
        fun k v mem => admitted k v (List.mem_cons_of_mem _ mem)
      exact ⟨x, laid.cons documented made⟩

theorem settingsOf_eq_ok_iff {path : String} {v : Value} {x : SettingsSnapshot}
    (documented : ∀ m, v = .map m → InDocument m) :
    settingsOf path v = .ok x ↔ ∃ m, v = .map m ∧ Overlays Setting.default m x := by
  have defaults : ({} : SettingsSnapshot).get = Setting.default :=
    funext SettingsSnapshot.get_default
  unfold settingsOf
  split
  · next m =>
      simp only [Value.map.injEq, exists_eq_left']
      split
      · next none =>
          rw [← defaults]
          refine setAll_eq_ok_iff (documented m rfl) fun e mem => ?_
          simpa using List.filter_eq_nil_iff.1 none _ (List.mem_map_of_mem mem)
      · next some =>
          refine iff_of_false ?_ fun laid => some ?_
          · split
            · nofun
            · split
              · nofun
              · nofun
          · refine List.filter_eq_nil_iff.2 fun k mem => ?_
            obtain ⟨e, stored, rfl⟩ := List.mem_map.1 mem
            obtain ⟨setting, same, -⟩ := laid.admitted e.1 e.2 stored
            simp [namesSetting_iff.2 ⟨setting, same⟩]
  · next other =>
      refine iff_of_false nofun ?_
      rintro ⟨m, rfl, -⟩
      exact other m rfl

theorem exists_settingsOf_iff {path : String} {v : Value}
    (documented : ∀ m, v = .map m → InDocument m) :
    (∃ x, settingsOf path v = .ok x) ↔ ∃ m, v = .map m ∧ Admitted m := by
  simp only [settingsOf_eq_ok_iff documented]
  constructor
  · rintro ⟨x, m, same, laid⟩
    exact ⟨m, same, laid.admitted⟩
  · rintro ⟨m, rfl, admitted⟩
    obtain ⟨x, laid⟩ := exists_overlays (s := {}) (documented m rfl) admitted
    rw [funext SettingsSnapshot.get_default] at laid
    exact ⟨x, m, rfl, laid⟩

theorem settings_of_truthy {path : String} {es : List (Value × Value)} {v : Value}
    (distinct : Distinct es) (under : (.text "settings", v) ∈ es) (truthy : v.truthy = true) :
    settings path es = (settingsOf path v).map some := by
  rw [settings, distinct.field?_eq_some_iff.2 under]
  simp only [truthy, if_true]
  cases settingsOf path v <;> rfl

theorem settings_of_falsy {path : String} {es : List (Value × Value)}
    (falsy : ∀ v, (.text "settings", v) ∈ es → v.truthy = false) : settings path es = .ok none := by
  rw [settings]
  cases field : Value.field? "settings" es with
  | none => rfl
  | some v => simp [falsy v (Value.mem_of_field? field)]

inductive Stored (cwd : Location) (path : Path) (t : FileTree) : List (Value × Value) → Prop where
  | absent (missing : t.isThere cwd path = false) : Stored cwd path t []
  | empty {bs} (stored : t.read cwd path = .ok bs) (parsed : Yaml.ofBytes bs = .ok .null) :
      Stored cwd path t []
  | mapping {bs es} (stored : t.read cwd path = .ok bs) (parsed : Yaml.ofBytes bs = .ok (.map es)) :
      Stored cwd path t es

variable {ρ : Type} {cwd : Location} {path : Path} {t : FileTree} {es : List (Value × Value)}

theorem Stored.keyed (h : Stored cwd path t es) : Yaml.Keyed es := by
  cases h with
  | absent => exact Yaml.keyed_nil
  | empty => exact Yaml.keyed_nil
  | mapping _ parsed => exact Yaml.keyed_of_ofBytes parsed

theorem ownSettings_fresh (h : Stored cwd path t es) :
    ∃ store, ownSettings cwd (fresh path t) = ⟨settings path.text es, ⟨store, t⟩, []⟩ := by
  have document {bs} (stored : t.read cwd path = .ok bs) (parsed : parse path.text bs = .ok es) :
      ∃ store, ownSettings cwd (fresh path t) = ⟨settings path.text es, ⟨store, t⟩, []⟩ := by
    refine ⟨⟨path, some es, false⟩, ?_⟩
    simp only [ownSettings, Action.bind_apply, Action.get, read_fresh stored, parsed]
    rfl
  cases h with
  | absent missing =>
      refine ⟨{ path }, ?_⟩
      have read := read_absent (s := fresh path t) rfl missing
      simp only [ownSettings, Action.bind_apply, Action.get, read]
      rfl
  | empty stored parsed => exact document stored (parse_of_ofBytes _ parsed)
  | mapping stored parsed => exact document stored (parse_of_ofBytes _ parsed)

def concluded {σ : Type} (fallback : Action σ Fault SettingsSnapshot) (s : σ) :
    Except Fault (Option SettingsSnapshot) → Result σ Fault SettingsSnapshot
  | .error e => ⟨.error e, s, []⟩
  | .ok (some x) => ⟨.ok x, s, []⟩
  | .ok none => fallback s

theorem loadSettings_fresh {w : World ρ} (h : Stored cwd path w.tree es) :
    ∃ store, ∀ (fallback : Source (StoreWorld ρ)) environment,
      (source cwd StoreWorld.site StoreWorld.withSite fallback).loadSettings environment
          ⟨{ path }, w⟩ =
        concluded (fallback.loadSettings environment) ⟨store, w⟩ (settings path.text es) := by
  obtain ⟨store, own⟩ := ownSettings_fresh h
  refine ⟨store, fun fallback environment => ?_⟩
  have zoomed : (ownSettings cwd).zoom StoreWorld.site StoreWorld.withSite
      (⟨{ path }, w⟩ : StoreWorld ρ) = ⟨settings path.text es, ⟨store, w⟩, []⟩ := by
    have site : StoreWorld.site (⟨{ path }, w⟩ : StoreWorld ρ) = fresh path w.tree := rfl
    simp only [Action.zoom, site, own]
    rfl
  simp only [source, Action.bind_apply, zoomed]
  cases settings path.text es with
  | error e => rfl
  | ok found => cases found <;> rfl

/-- What a store answers that holds settings: they are taken over the defaults, all or none. -/
structure Answers (v : Value) (answer : Except Fault SettingsSnapshot) : Prop where
  given : ∀ x, answer = .ok x ↔ ∃ m, v = .map m ∧ Overlays Setting.default m x
  accepted : (∃ x, answer = .ok x) ↔ ∃ m, v = .map m ∧ Admitted m

/-- Settings come from the entries of a store alone, or all from the fallback. -/
structure Unmixed (cwd : Location) (path : Path) (w : World ρ) (es : List (Value × Value)) :
    Prop where
  own : ∀ v, (.text "settings", v) ∈ es → v.truthy = true →
    ∃ answer store, Answers v answer ∧ ∀ (fallback : Source (StoreWorld ρ)) environment,
      (source cwd StoreWorld.site StoreWorld.withSite fallback).loadSettings environment
        ⟨{ path }, w⟩ = ⟨answer, ⟨store, w⟩, []⟩
  elsewhere : (∀ v, (.text "settings", v) ∈ es → v.truthy = false) →
    ∃ store, ∀ (fallback : Source (StoreWorld ρ)) environment,
      (source cwd StoreWorld.site StoreWorld.withSite fallback).loadSettings environment
        ⟨{ path }, w⟩ = fallback.loadSettings environment ⟨store, w⟩

theorem loadSettings_unmixed {w : World ρ} (h : Stored cwd path w.tree es) :
    Unmixed cwd path w es := by
  have keyed := h.keyed
  obtain ⟨store, ends⟩ := loadSettings_fresh h
  constructor
  · intro v under truthy
    have documented : ∀ m, v = .map m → InDocument m := by
      rintro m rfl
      exact ⟨keyed.inner _ m under, keyed.plain _ m under⟩
    refine ⟨settingsOf path.text v, store, ⟨?_, ?_⟩, ?_⟩
    · exact fun x => settingsOf_eq_ok_iff documented
    · exact exists_settingsOf_iff documented
    · intro fallback environment
      rw [ends, settings_of_truthy keyed.own under truthy]
      cases settingsOf path.text v <;> rfl
  · intro falsy
    refine ⟨store, fun fallback environment => ?_⟩
    rw [ends, settings_of_falsy falsy]
    rfl

def sparseWorld : World Unit :=
  ⟨sparseTree, ()⟩

theorem loadSettings_sparse :
    Stored ["w"] sparsePath sparseWorld.tree sparseEntries ∧
      ((fileSource ["w"]).loadSettings ⟨fun _ => pure none⟩
        ⟨{ path := sparsePath }, sparseWorld⟩).value = .ok { p2pDeviceName := some "a" } := by
  have stored : sparseWorld.tree.read ["w"] sparsePath = .ok (Text.Utf8.encode sparseText) := by rfl
  have known : Stored ["w"] sparsePath sparseWorld.tree sparseEntries :=
    .mapping stored ofBytes_sparseText
  refine ⟨known, ?_⟩
  obtain ⟨answer, store, answers, given⟩ := (loadSettings_unmixed known).own
    (.map [(.text "p2p_device_name", .text "a")]) (by simp [sparseEntries]) rfl
  rw [fileSource, given]
  refine (answers.given _).2 ⟨_, rfl, ?_, ?_, ?_⟩
  · intro k v mem
    cases List.mem_singleton.1 mem
    exact ⟨.p2pDeviceName, rfl, trivial⟩
  · intro setting v mem
    obtain ⟨name, rfl⟩ := Prod.mk.inj (List.mem_singleton.1 mem)
    cases Setting.eq_of_key (y := .p2pDeviceName) name
    rfl
  · intro setting missing
    cases setting with
    | p2pDeviceName => exact absurd (List.mem_singleton.2 rfl) (missing (.text "a"))
    | _ => rfl

end Handover.LegacyStore
