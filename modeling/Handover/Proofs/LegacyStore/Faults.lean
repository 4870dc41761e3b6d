import Handover.Proofs.LegacyStore.World
import Handover.Proofs.Value.Order

namespace Handover.LegacyStore

variable {ρ α β : Type}

def Foreign (v : Except Fault α) : Prop :=
  ∃ e, v = .error e ∧ e.isMigration = false

theorem not_foreign_ok (a : α) : ¬ Foreign (.ok a) := by
  rintro ⟨e, ⟨⟩, -⟩

theorem foreign_error_iff {e : Fault} :
    Foreign (.error e : Except Fault α) ↔ e.isMigration = false := by
  constructor
  · rintro ⟨_, ⟨⟩, foreign⟩
    exact foreign
  · exact fun foreign => ⟨e, rfl, foreign⟩

theorem foreign_error_congr {e : Fault} :
    Foreign (.error e : Except Fault α) ↔ Foreign (.error e : Except Fault β) :=
  foreign_error_iff.trans foreign_error_iff.symm

theorem not_foreign {v : Except Fault α} (h : ∀ e, v = .error e → e.isMigration = true) :
    ¬ Foreign v := by
  rintro ⟨e, refused, foreign⟩
  rw [h e refused] at foreign
  cases foreign

/-- Bytes that cannot be read, though not for their document. -/
def Unreadable (bs : Bytes) : Prop :=
  ∃ e, Yaml.ofBytes bs = .error e ∧ e ≠ .malformed

theorem isMigration_entries {path : String} {v : Value} {e : Fault}
    (h : entries path v = .error e) : e.isMigration = true := by
  unfold entries at h
  split at h
  · cases h
  · cases h
  · cases h
    rfl

theorem foreign_parse_iff (path : String) (bs : Bytes) :
    Foreign (parse path bs) ↔ Unreadable bs := by
  unfold parse
  split
  · next v given =>
      refine iff_of_false (not_foreign fun e => isMigration_entries) ?_
      rintro ⟨e, refused, -⟩
      cases given.symm.trans refused
  · next given =>
      refine iff_of_false (not_foreign ?_) ?_
      · rintro e ⟨⟩
        rfl
      · rintro ⟨e, refused, other⟩
        cases given.symm.trans refused
        exact other rfl
  · next e other given => exact iff_of_true (foreign_error_iff.2 rfl) ⟨e, given, other⟩

def unknownKeys (m : List (Value × Value)) : List Value :=
  (m.map Prod.fst).filter fun k => !namesSetting k

def Listable (keys : List Value) : Prop :=
  keys.Pairwise Value.SameKind ∧ ∀ k ∈ keys, k.isShown = true

theorem listable_iff {keys : List Value} :
    Listable keys ↔
      ∃ names, Value.sorted? keys = some names ∧ names.all Value.isShown = true := by
  rw [Listable, ← Value.isSome_sorted?_iff, Option.isSome_iff_exists]
  constructor
  · rintro ⟨⟨names, sorted⟩, shown⟩
    refine ⟨names, sorted, List.all_eq_true.2 fun k inside => ?_⟩
    exact shown k ((Value.sorted?_perm sorted).mem_iff.1 inside)
  · rintro ⟨names, sorted, shown⟩
    refine ⟨⟨names, sorted⟩, fun k inside => ?_⟩
    exact List.all_eq_true.1 shown k ((Value.sorted?_perm sorted).mem_iff.2 inside)

def UnlistableSettings (es : List (Value × Value)) : Prop :=
  ∃ m, Value.field? "settings" es = some (.map m) ∧ ¬ Listable (unknownKeys m)

theorem isMigration_setAll {es : List (Value × Value)} {x : SettingsSnapshot} {e : Fault}
    (h : setAll x es = .error e) : e.isMigration = true := by
  fun_induction setAll x es with
  | case1 => cases h
  | case2 x name v rest unknown ih => exact ih h
  | case3 x name v rest setting known x' set ih => exact ih h
  | case4 =>
      cases h
      rfl
  | case5 x k rest other ih => exact ih h

theorem foreign_settingsOf_iff (path : String) (v : Value) :
    Foreign (settingsOf path v) ↔ ∃ m, v = .map m ∧ ¬ Listable (unknownKeys m) := by
  unfold settingsOf
  split
  · next m =>
      simp only [Value.map.injEq, exists_eq_left', listable_iff]
      split
      · next none =>
          have unknown : unknownKeys m = [] := none
          refine iff_of_false (not_foreign fun e => isMigration_setAll) ?_
          simp [unknown, Value.sorted?]
      · split
        · next unsorted =>
            have unknown : Value.sorted? (unknownKeys m) = none := unsorted
            exact iff_of_true (foreign_error_iff.2 rfl) (by simp [unknown])
        · next names sorted =>
            have unknown : Value.sorted? (unknownKeys m) = some names := sorted
            simp only [unknown, Option.some.injEq, exists_eq_left']
            cases shown : names.all Value.isShown with
            | true =>
                refine iff_of_false (not_foreign ?_) (by simp)
                rintro e ⟨⟩
                rfl
            | false => exact iff_of_true (foreign_error_iff.2 rfl) (by simp)
  · next other =>
      refine iff_of_false (not_foreign ?_) ?_
      · rintro e ⟨⟩
        rfl
      · rintro ⟨m, rfl, -⟩
        exact other m rfl

theorem foreign_settings_iff (path : String) (es : List (Value × Value)) :
    Foreign (settings path es) ↔ UnlistableSettings es := by
  rw [UnlistableSettings, settings]
  cases field : Value.field? "settings" es with
  | none => exact iff_of_false (not_foreign_ok _) (by simp)
  | some v =>
      simp only [Option.some.injEq]
      rw [← foreign_settingsOf_iff path v]
      cases truthy : v.truthy with
      | true =>
          simp only [if_true]
          cases settingsOf path v with
          | ok x => exact iff_of_false (not_foreign_ok _) (not_foreign_ok _)
          | error e => exact foreign_error_congr
      | false =>
          refine iff_of_false (not_foreign_ok _) ?_
          rw [foreign_settingsOf_iff]
          rintro ⟨m, rfl, unlistable⟩
          have empty : m = [] := by simpa [Value.truthy] using truthy
          simp [empty, unknownKeys, Listable] at unlistable

structure OnFile (cwd : Location) (path : Path) (bs : Bytes) (s : StoreWorld ρ) : Prop where
  place : s.store.path = path
  stored : s.world.tree.read cwd path = .ok bs
  cached : ∀ es, s.store.cache = some es → parse path.text bs = .ok es

variable {cwd : Location} {path : Path} {bs : Bytes} {s : StoreWorld ρ}

theorem ReadEnds.onFile (stands : OnFile cwd path bs s) {value u}
    (h : ReadEnds cwd s.site value u) :
    value = (parse path.text bs).map some ∧
      OnFile cwd path bs (⟨u.store, s.world⟩ : StoreWorld ρ) := by
  obtain ⟨rfl, stored, cached⟩ := stands
  cases h with
  | kept kept => exact ⟨by rw [cached _ kept]; rfl, rfl, stored, cached⟩
  | absent _ missing =>
      have there := FileTree.isThere_of_read stored
      cases missing.symm.trans there
  | closed _ _ refused => cases refused.symm.trans stored
  | @unparsed bs' e _ stored' refused =>
      cases stored.symm.trans stored'
      have given : parse s.store.path.text bs = .error e := refused
      exact ⟨by rw [given]; rfl, rfl, stored, cached⟩
  | @parsed bs' es _ stored' parsed =>
      cases stored.symm.trans stored'
      have given : parse s.store.path.text bs = .ok es := parsed
      refine ⟨by rw [given]; rfl, rfl, stored, ?_⟩
      rintro _ ⟨⟩
      exact given

theorem LoadEnds.onFile (stands : OnFile cwd path bs s) {value u}
    (h : LoadEnds cwd s.site value u) :
    OnFile cwd path bs (⟨u.store, s.world⟩ : StoreWorld ρ) := by
  cases h with
  | again => exact stands
  | unread _ read => exact (read.onFile stands).2
  | absent _ read => exact (read.onFile stands).2
  | refused _ read => exact (read.onFile stands).2
  | handed _ read =>
      obtain ⟨place, stored, cached⟩ := (read.onFile stands).2
      exact ⟨place, stored, cached⟩

theorem ReadEnds.foreign_iff (stands : OnFile cwd path bs s) {value u}
    (h : ReadEnds cwd s.site value u) : Foreign value ↔ Unreadable bs := by
  rw [(h.onFile stands).1, ← foreign_parse_iff path.text bs]
  cases parse path.text bs with
  | ok es => exact iff_of_false (not_foreign_ok _) (not_foreign_ok _)
  | error e => exact foreign_error_congr

theorem LoadEnds.foreign_iff (stands : OnFile cwd path bs s) {value u}
    (h : LoadEnds cwd s.site value u) :
    Foreign value ↔ s.store.taken = false ∧ Unreadable bs := by
  have handed {v u} (read : ReadEnds cwd s.site (.ok v) u) : ¬ Unreadable bs :=
    mt (read.foreign_iff stands).2 (not_foreign_ok _)
  cases h with
  | again taken =>
      refine iff_of_false (not_foreign_ok _) ?_
      rintro ⟨untaken, -⟩
      cases untaken.symm.trans taken
  | unread untaken read =>
      rw [← read.foreign_iff stands, foreign_error_congr]
      exact (and_iff_right untaken).symm
  | absent _ read => exact iff_of_false (not_foreign_ok _) fun h => handed read h.2
  | refused _ read =>
      refine iff_of_false (not_foreign ?_) fun h => handed read h.2
      rintro e ⟨⟩
      rfl
  | handed _ read => exact iff_of_false (not_foreign_ok _) fun h => handed read h.2

theorem foreign_settled_iff (p : Provider (World ρ)) (w : World ρ)
    (given : Except Fault (Option SettingsSnapshot)) :
    Foreign (settled p w given).1 ↔ Foreign given := by
  cases given with
  | error e => exact foreign_error_congr
  | ok found =>
      refine iff_of_false ?_ (not_foreign_ok _)
      cases found with
      | some x => exact not_foreign_ok x
      | none =>
          rw [settled]
          cases (p.load w).value with
          | ok x => exact not_foreign_ok x
          | error e =>
              refine not_foreign ?_
              rintro _ ⟨⟩
              rfl

theorem foreign_own_iff (stands : OnFile cwd path bs s) {value u}
    (h : ReadEnds cwd s.site value u) :
    Foreign (value.bind (own path)) ↔
      Unreadable bs ∨ ∃ es, parse path.text bs = .ok es ∧ UnlistableSettings es := by
  rw [← h.foreign_iff stands, (h.onFile stands).1]
  cases parse path.text bs with
  | error e =>
      simp only [Except.map, reduceCtorEq, false_and, exists_false, or_false]
      exact foreign_error_congr
  | ok es =>
      refine (foreign_settings_iff path.text es).trans ?_
      simp [Except.map, not_foreign_ok]

/-- The states of a store over a file with given bytes after any calls of its loaders. -/
inductive Loading (cwd : Location) (path : Path) (bs : Bytes) : StoreWorld ρ → Prop where
  | opened {w} (stored : w.tree.read cwd path = .ok bs) : Loading cwd path bs ⟨{ path }, w⟩
  | loadConfig {t} (before : Loading cwd path bs t) :
      Loading cwd path bs ((fileSource cwd).loadConfig t).state
  | loadSettings {t} (before : Loading cwd path bs t) (p : Provider (World ρ))
      (reads : ∀ key, Action.Respects (SameEntry cwd path) (p.getString key)) :
      Loading cwd path bs ((fileSource cwd).loadSettings (inStore p) t).state

theorem Loading.onFile (h : Loading cwd path bs s) : OnFile cwd path bs s := by
  induction h with
  | opened stored => exact ⟨rfl, stored, nofun⟩
  | @loadConfig s before stands =>
      rw [(loadConfig_within cwd s).state]
      exact (loadConfig_ends cwd s.site).onFile stands
  | @loadSettings s before p reads stands =>
      obtain ⟨place, stored, cached⟩ := ((read_ends cwd s.site).onFile stands).2
      rw [(loadSettings_ends cwd p s).state]
      exact ⟨place, (sameEntry_settled reads s.world _).read stored, cached⟩

def illPath : Path :=
  ⟨.slash, ["w", "store"]⟩

def illWorld : World Unit :=
  ⟨⟨[(["w"], .directory), (["w", "store"], .file [0xFF])]⟩, ()⟩

end Handover.LegacyStore
