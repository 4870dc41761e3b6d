import Handover.Proofs.LegacyStore.World
import Mathlib.Data.List.Induction

namespace Handover.LegacyStore

variable {ρ : Type}

inductive Happening (ρ : Type) where
  | loadConfig
  | loadSettings (fallback : Action ρ Fault SettingsSnapshot)
  | commit
  | written (bs : Bytes)
  | deleted

inductive Deed where
  | read (bs : Bytes)
  | handed (config : ConfigSnapshot)

def backed (cwd : Location) (fallback : Action ρ Fault SettingsSnapshot) : Source (StoreWorld ρ) :=
  source cwd StoreWorld.site StoreWorld.withSite
    { loadConfig := pure none
      loadSettings := fun _ =>
        fallback.zoom (fun s => s.world.rest) fun r s => ⟨s.store, ⟨s.world.tree, r⟩⟩
      commit := pure () }

def content (cwd : Location) (s : StoreWorld ρ) : Option Bytes :=
  (s.world.tree.read cwd s.store.path).toOption

/-- The bytes of a document that was not kept before and is kept now. -/
def filled (cwd : Location) (s s' : StoreWorld ρ) : List Deed :=
  if s.store.cache.isNone && s'.store.cache.isSome then (content cwd s).toList.map .read else []

def returned : Except Fault (Option ConfigSnapshot) → List Deed
  | .ok (some c) => [.handed c]
  | _ => []

theorem returned_error (e : Fault) : returned (.error e) = [] :=
  rfl

theorem returned_none : returned (.ok none) = [] :=
  rfl

theorem returned_some (c : ConfigSnapshot) : returned (.ok (some c)) = [.handed c] :=
  rfl

namespace Happening

def isCall : Happening ρ → Bool
  | written _ => false
  | deleted => false
  | _ => true

def isLoader : Happening ρ → Bool
  | loadConfig => true
  | loadSettings _ => true
  | _ => false

def effect (cwd : Location) : Happening ρ → StoreWorld ρ → StoreWorld ρ
  | loadConfig, s => ((fileSource cwd).loadConfig s).state
  | loadSettings fallback, s => ((backed cwd fallback).loadSettings ⟨fun _ => pure none⟩ s).state
  | commit, s => ((fileSource cwd).commit s).state
  | written bs, s =>
      match s.world.tree.write cwd s.store.path bs with
      | .ok t => ⟨s.store, ⟨t, s.world.rest⟩⟩
      | .error _ => s
  | deleted, s =>
      match s.world.tree.unlink cwd s.store.path with
      | .ok t => ⟨s.store, ⟨t, s.world.rest⟩⟩
      | .error _ => s

def deeds (cwd : Location) (h : Happening ρ) (s : StoreWorld ρ) : List Deed :=
  match h with
  | loadConfig => filled cwd s (h.effect cwd s) ++ returned ((fileSource cwd).loadConfig s).value
  | loadSettings _ => filled cwd s (h.effect cwd s)
  | _ => []

end Happening

def after (cwd : Location) : List (Happening ρ) → StoreWorld ρ → StoreWorld ρ
  | [], s => s
  | h :: rest, s => after cwd rest (h.effect cwd s)

def deeds (cwd : Location) : List (Happening ρ) → StoreWorld ρ → List Deed
  | [], _ => []
  | h :: rest, s => h.deeds cwd s ++ deeds cwd rest (h.effect cwd s)

theorem after_append (cwd : Location) (as bs : List (Happening ρ)) (s : StoreWorld ρ) :
    after cwd (as ++ bs) s = after cwd bs (after cwd as s) := by
  induction as generalizing s with
  | nil => rfl
  | cons a rest ih => exact ih _

theorem deeds_append (cwd : Location) (as bs : List (Happening ρ)) (s : StoreWorld ρ) :
    deeds cwd (as ++ bs) s = deeds cwd as s ++ deeds cwd bs (after cwd as s) := by
  induction as generalizing s with
  | nil => rfl
  | cons a rest ih =>
      simp only [List.cons_append, deeds, after, ih, List.append_assoc]

variable {cwd : Location} {s : StoreWorld ρ} {bs : Bytes}

theorem content_eq_some_iff :
    content cwd s = some bs ↔ s.world.tree.read cwd s.store.path = .ok bs := by
  rw [content]
  cases s.world.tree.read cwd s.store.path <;> simp [Except.toOption]

theorem effect_loadConfig (cwd : Location) (s : StoreWorld ρ) :
    Happening.loadConfig.effect cwd s = ⟨(loadConfig cwd s.site).state.store, s.world⟩ :=
  (loadConfig_within cwd s).state

theorem backed_ends (cwd : Location) (fallback : Action ρ Fault SettingsSnapshot)
    (s : StoreWorld ρ) :
    ((backed cwd fallback).loadSettings ⟨fun _ => pure none⟩).Ends s
      (answered fallback s.world.rest ((read cwd s.site).value.bind (own s.store.path))).1
      ⟨(read cwd s.site).state.store, ⟨s.world.tree,
        (answered fallback s.world.rest ((read cwd s.site).value.bind (own s.store.path))).2⟩⟩ := by
  have ends : ((backed cwd fallback).loadSettings ⟨fun _ => pure none⟩).Ends s _ _ :=
    source_ends cwd _ _ s
  generalize (read cwd s.site).value.bind (own s.store.path) = given at ends ⊢
  cases given with
  | error e => exact ends
  | ok found =>
      cases found with
      | some x => exact ends
      | none => exact ends

theorem effect_loadSettings (cwd : Location) (fallback : Action ρ Fault SettingsSnapshot)
    (s : StoreWorld ρ) :
    ((Happening.loadSettings fallback).effect cwd s).store = (read cwd s.site).state.store ∧
      ((Happening.loadSettings fallback).effect cwd s).world.tree = s.world.tree := by
  rw [Happening.effect, (backed_ends cwd fallback s).state]
  exact ⟨rfl, rfl⟩

theorem effect_commit (cwd : Location) (s : StoreWorld ρ) :
    Happening.commit.effect cwd s =
      ⟨s.store, ⟨if s.store.taken then committed s.world.tree cwd s.store.path else s.world.tree,
        s.world.rest⟩⟩ :=
  (commit_within cwd s).state

theorem effect_deleted (cwd : Location) (s : StoreWorld ρ) :
    Happening.deleted.effect cwd s =
      ⟨s.store, ⟨committed s.world.tree cwd s.store.path, s.world.rest⟩⟩ := by
  rw [committed_eq, Happening.effect]
  cases s.world.tree.unlink cwd s.store.path <;> rfl

theorem store_effect {h : Happening ρ} (idle : h.isLoader = false) (s : StoreWorld ρ) :
    (h.effect cwd s).store = s.store := by
  cases h with
  | loadConfig => cases idle
  | loadSettings fallback => cases idle
  | commit => rw [effect_commit]
  | written bs =>
      rw [Happening.effect]
      split <;> rfl
  | deleted => rw [effect_deleted]

theorem path_effect (cwd : Location) (h : Happening ρ) (s : StoreWorld ρ) :
    (h.effect cwd s).store.path = s.store.path := by
  have idle (none : h.isLoader = false) : (h.effect cwd s).store.path = s.store.path := by
    rw [store_effect none]
  cases h with
  | loadConfig =>
      rw [effect_loadConfig]
      exact (loadConfig_ends cwd s.site).path
  | loadSettings fallback =>
      rw [(effect_loadSettings cwd fallback s).1]
      exact (read_ends cwd s.site).path
  | commit => exact idle rfl
  | written bs => exact idle rfl
  | deleted => exact idle rfl

theorem content_congr {s' : StoreWorld ρ} (path : s'.store.path = s.store.path)
    (tree : s'.world.tree = s.world.tree) : content cwd s' = content cwd s := by
  rw [content, content, path, tree]

theorem content_loadConfig (cwd : Location) (s : StoreWorld ρ) :
    content cwd (Happening.loadConfig.effect cwd s) = content cwd s :=
  content_congr (path_effect cwd .loadConfig s) (by rw [effect_loadConfig])

theorem content_loadSettings (cwd : Location) (fallback : Action ρ Fault SettingsSnapshot)
    (s : StoreWorld ρ) :
    content cwd ((Happening.loadSettings fallback).effect cwd s) = content cwd s :=
  content_congr (path_effect cwd (.loadSettings fallback) s) (effect_loadSettings cwd fallback s).2

theorem content_deleted (cwd : Location) (s : StoreWorld ρ) :
    content cwd (Happening.deleted.effect cwd s) = none := by
  cases stored : content cwd (Happening.deleted.effect cwd s) with
  | none => rfl
  | some bs =>
      rw [content_eq_some_iff, effect_deleted] at stored
      exact absurd stored (read_committed _ _ _ _)

theorem content_commit (cwd : Location) (s : StoreWorld ρ) :
    content cwd (Happening.commit.effect cwd s) =
      if s.store.taken then none else content cwd s := by
  cases taken : s.store.taken with
  | false => rw [effect_commit, taken]; rfl
  | true =>
      have same : Happening.commit.effect cwd s = Happening.deleted.effect cwd s := by
        rw [effect_commit, effect_deleted, taken, if_pos rfl]
      rw [same, content_deleted, if_pos rfl]

def Placed (cwd : Location) (s : StoreWorld ρ) : Prop :=
  ∃ l, s.world.tree.locate cwd s.store.path = .ok l ∧ s.world.tree.find? l ≠ some .directory

theorem placed_of_content (h : content cwd s = some bs) : Placed cwd s := by
  obtain ⟨l, hl, hf⟩ := FileTree.read_eq_ok_iff.1 (content_eq_some_iff.1 h)
  exact ⟨l, hl, by simp [hf]⟩

theorem content_written (placed : Placed cwd s) (bs : Bytes) :
    content cwd ((Happening.written bs).effect cwd s) = some bs := by
  obtain ⟨l, hl, file⟩ := placed
  have written : s.world.tree.write cwd s.store.path bs = .ok (s.world.tree.put l (.file bs)) :=
    FileTree.write_eq_ok_iff.2 ⟨l, hl, file, rfl⟩
  rw [content_eq_some_iff, path_effect, Happening.effect, written]
  exact FileTree.read_of_write written

theorem sameDirectories_effect (cwd : Location) (h : Happening ρ) (s : StoreWorld ρ) :
    s.world.tree.SameDirectories (h.effect cwd s).world.tree := by
  cases h with
  | loadConfig =>
      rw [effect_loadConfig]
      exact fun _ => Iff.rfl
  | loadSettings fallback =>
      rw [(effect_loadSettings cwd fallback s).2]
      exact fun _ => Iff.rfl
  | commit =>
      rw [effect_commit]
      dsimp only
      split
      · exact sameDirectories_committed _ _ _
      · exact fun _ => Iff.rfl
  | written bs =>
      rw [Happening.effect]
      split
      · next written => exact FileTree.sameDirectories_write written
      · exact fun _ => Iff.rfl
  | deleted =>
      rw [effect_deleted]
      exact sameDirectories_committed _ _ _

theorem placed_effect (cwd : Location) (h : Happening ρ) (s : StoreWorld ρ) :
    Placed cwd (h.effect cwd s) ↔ Placed cwd s := by
  have same := sameDirectories_effect cwd h s
  rw [Placed, Placed, path_effect]
  exact exists_congr fun l => and_congr same.locate.symm (not_congr (same l).symm)

theorem placed_after (cwd : Location) (hs : List (Happening ρ)) (s : StoreWorld ρ) :
    Placed cwd (after cwd hs s) ↔ Placed cwd s := by
  induction hs generalizing s with
  | nil => exact Iff.rfl
  | cons h rest ih => exact (ih _).trans (placed_effect cwd h s)

structure Tracks (path : Path) (ds : List Deed) (s : StoreWorld ρ) : Prop where
  place : s.store.path = path
  unread : s.store.cache = none → ∀ bs, .read bs ∉ ds
  read : ∀ es, s.store.cache = some es →
    ∃ bs, parse path.text bs = .ok es ∧ ∀ bs', .read bs' ∈ ds ↔ bs' = bs
  taken : s.store.taken = true ↔ ∃ c, .handed c ∈ ds
  handed : ∀ c, .handed c ∈ ds → ∃ es, s.store.cache = some es ∧ config es = .ok c

def opened (path : Path) (w : World ρ) : StoreWorld ρ :=
  ⟨{ path }, w⟩

theorem tracks_opened (path : Path) (w : World ρ) : Tracks path [] (opened path w) where
  place := rfl
  unread := by simp
  read := nofun
  taken := by simp [opened]
  handed := by simp

section

variable {path : Path} {ds : List Deed} {s' : StoreWorld ρ}

theorem Tracks.congr (h : Tracks path ds s) (store : s'.store = s.store) : Tracks path ds s' where
  place := store ▸ h.place
  unread := store ▸ h.unread
  read := store ▸ h.read
  taken := store ▸ h.taken
  handed := store ▸ h.handed

theorem filled_eq_nil (cache : s'.store.cache = s.store.cache) : filled cwd s s' = [] := by
  rw [filled, cache]
  cases s.store.cache <;> rfl

theorem tracks_read (h : Tracks path ds s) {value} {u : StoreSite}
    (ends : ReadEnds cwd s.site value u) (store : s'.store = u.store) :
    Tracks path (ds ++ filled cwd s s') s' := by
  have unchanged : u = s.site → Tracks path (ds ++ filled cwd s s') s' := by
    rintro rfl
    rw [filled_eq_nil (congrArg LegacyStore.cache store), List.append_nil]
    exact h.congr store
  cases ends with
  | kept => exact unchanged rfl
  | absent => exact unchanged rfl
  | closed => exact unchanged rfl
  | unparsed => exact unchanged rfl
  | @parsed bs es unread stored parsed =>
      have before : s.store.cache = none := unread
      have now : s'.store.cache = some es := by rw [store]
      have deed : filled cwd s s' = [.read bs] := by
        simp [filled, before, now, content_eq_some_iff.2 stored]
      have old := h.unread before
      rw [deed]
      exact
        { place := by rw [store]; exact h.place
          unread := by simp [now]
          read := by
            intro es' cached
            cases now.symm.trans cached
            exact ⟨bs, h.place ▸ parsed, by simp [old]⟩
          taken := by
            rw [store]
            simpa [StoreWorld.site] using h.taken
          handed := by
            intro c mem
            obtain ⟨es', cached, -⟩ := h.handed c (by simpa using mem)
            cases before.symm.trans cached }

theorem tracks_handed (h : Tracks path ds s) {es : List (Value × Value)} {c : ConfigSnapshot}
    (cached : s.store.cache = some es) (made : config es = .ok c)
    (store : s'.store = ⟨s.store.path, s.store.cache, true⟩) (untaken : s.store.taken = false) :
    Tracks path (ds ++ [.handed c]) s' where
  place := by rw [store]; exact h.place
  unread := by simp [store, cached]
  read := by
    rw [store]
    intro es' cached'
    simpa using h.read es' cached'
  taken := by simp [store]
  handed := by
    intro c' mem
    have none : ∀ c, .handed c ∉ ds := by
      intro c old
      have := h.taken.2 ⟨c, old⟩
      simp [untaken] at this
    rw [store]
    simp only [List.mem_append, none, List.mem_singleton, false_or, Deed.handed.injEq] at mem
    cases mem
    exact ⟨es, cached, made⟩

theorem ReadEnds.found {s u : StoreSite} {es : List (Value × Value)}
    (h : ReadEnds cwd s (.ok (some es)) u) :
    u.store.cache = some es ∧ u.store.taken = s.store.taken := by
  cases h with
  | kept cached => exact ⟨cached, rfl⟩
  | parsed => exact ⟨rfl, rfl⟩

theorem tracks_loadConfig (h : Tracks path ds s) :
    Tracks path (ds ++ Happening.loadConfig.deeds cwd s) (Happening.loadConfig.effect cwd s) := by
  have ends := loadConfig_ends cwd s.site
  rw [Happening.deeds, (loadConfig_within cwd s).value, effect_loadConfig]
  generalize (loadConfig cwd s.site).value = value, (loadConfig cwd s.site).state = u at ends ⊢
  cases ends with
  | again =>
      have same : filled cwd s ⟨s.site.store, s.world⟩ = [] := filled_eq_nil rfl
      rw [same, returned_none, List.append_nil, List.append_nil]
      exact h.congr rfl
  | unread _ read =>
      rw [returned_error, List.append_nil]
      exact tracks_read h read rfl
  | absent _ read =>
      rw [returned_none, List.append_nil]
      exact tracks_read h read rfl
  | refused _ read =>
      rw [returned_error, List.append_nil]
      exact tracks_read h read rfl
  | @handed es c u untaken read made =>
      have first : Tracks path (ds ++ filled cwd s ⟨u.store, s.world⟩) ⟨u.store, s.world⟩ :=
        tracks_read h read rfl
      obtain ⟨cached, taken⟩ := read.found
      rw [returned_some, ← List.append_assoc]
      exact tracks_handed first cached made rfl (taken.trans untaken)

theorem tracks_loadSettings (fallback : Action ρ Fault SettingsSnapshot)
    (h : Tracks path ds s) :
    Tracks path (ds ++ (Happening.loadSettings fallback).deeds cwd s)
      ((Happening.loadSettings fallback).effect cwd s) :=
  tracks_read h (read_ends cwd s.site) (effect_loadSettings cwd fallback s).1

theorem tracks_effect (h : Happening ρ) (tracks : Tracks path ds s) :
    Tracks path (ds ++ h.deeds cwd s) (h.effect cwd s) := by
  have idle (none : h.isLoader = false) : Tracks path (ds ++ []) (h.effect cwd s) := by
    rw [List.append_nil]
    exact tracks.congr (store_effect none s)
  cases h with
  | loadConfig => exact tracks_loadConfig tracks
  | loadSettings fallback => exact tracks_loadSettings fallback tracks
  | commit => exact idle rfl
  | written bs => exact idle rfl
  | deleted => exact idle rfl

theorem tracks_after (hs : List (Happening ρ)) (tracks : Tracks path ds s) :
    Tracks path (ds ++ deeds cwd hs s) (after cwd hs s) := by
  induction hs generalizing ds s with
  | nil => rwa [deeds, List.append_nil]
  | cons h rest ih =>
      rw [deeds, after, ← List.append_assoc]
      exact ih (tracks_effect h tracks)

theorem tracks_run (cwd : Location) (path : Path) (hs : List (Happening ρ)) (w : World ρ) :
    Tracks path (deeds cwd hs (opened path w)) (after cwd hs (opened path w)) :=
  tracks_after hs (tracks_opened path w)

theorem Tracks.handed_of_taken (h : Tracks path ds s) (taken : s.store.taken = true) :
    ∃ o c, .handed c ∈ ds ∧ snapshot path o = .ok c ∧ ∀ bs, .read bs ∈ ds ↔ bs = o := by
  obtain ⟨c, handed⟩ := h.taken.1 taken
  obtain ⟨es, cached, made⟩ := h.handed c handed
  obtain ⟨o, parsed, read⟩ := h.read es cached
  exact ⟨o, c, handed, snapshot_eq_ok_iff.2 ⟨es, parsed, made⟩, read⟩

theorem Tracks.read_unique (h : Tracks path ds s) {o bs : Bytes} (ho : .read o ∈ ds)
    (hb : .read bs ∈ ds) : bs = o := by
  cases cached : s.store.cache with
  | none => exact absurd ho (h.unread cached o)
  | some es =>
      obtain ⟨x, -, only⟩ := h.read es cached
      rw [(only bs).1 hb, (only o).1 ho]

end

theorem content_of_filled {s' : StoreWorld ρ} (h : .read bs ∈ filled cwd s s') :
    content cwd s = some bs := by
  rw [filled] at h
  split at h
  · simpa using h
  · simp at h

theorem content_of_read {h : Happening ρ} (mem : .read bs ∈ h.deeds cwd s) :
    content cwd s = some bs := by
  cases h with
  | loadConfig =>
      rw [Happening.deeds, List.mem_append] at mem
      rcases mem with filled | returned
      · exact content_of_filled filled
      · unfold LegacyStore.returned at returned
        split at returned <;> simp at returned
  | loadSettings fallback => exact content_of_filled mem
  | commit => simp [Happening.deeds] at mem
  | written bs => simp [Happening.deeds] at mem
  | deleted => simp [Happening.deeds] at mem

theorem placed_of_read {hs : List (Happening ρ)} (mem : .read bs ∈ deeds cwd hs s) :
    Placed cwd s := by
  induction hs generalizing s with
  | nil => simp [deeds] at mem
  | cons h rest ih =>
      rw [deeds, List.mem_append] at mem
      rcases mem with now | later
      · exact placed_of_content (content_of_read now)
      · exact (placed_effect cwd h s).1 (ih later)

theorem content_call {h : Happening ρ} (call : h.isCall = true) (s : StoreWorld ρ) :
    content cwd (h.effect cwd s) = content cwd s ∨
      h = .commit ∧ content cwd (h.effect cwd s) = none := by
  cases h with
  | loadConfig => exact .inl (content_loadConfig cwd s)
  | loadSettings fallback => exact .inl (content_loadSettings cwd fallback s)
  | commit =>
      rw [content_commit]
      cases s.store.taken with
      | false => exact .inl rfl
      | true => exact .inr ⟨rfl, rfl⟩
  | written bs => cases call
  | deleted => cases call

theorem content_cases {hs : List (Happening ρ)} {o : Bytes} (read : .read o ∈ deeds cwd hs s)
    (stands : content cwd (after cwd hs s) = some bs) :
    bs = o ∨ ∃ before between, hs = before ++ .written bs :: between ∧
      ∀ h ∈ between, h.isCall = true := by
  induction hs using List.reverseRecOn with
  | nil => simp [deeds] at read
  | append_singleton hs h ih =>
      have placed : Placed cwd (after cwd hs s) := (placed_after cwd hs s).2 (placed_of_read read)
      rw [after_append] at stands
      rw [deeds_append, List.mem_append] at read
      simp only [after, deeds, List.append_nil] at stands read
      cases call : h.isCall with
      | true =>
          have stood : content cwd (after cwd hs s) = some bs := by
            rcases content_call call (after cwd hs s) with same | ⟨-, none⟩
            · rwa [← same]
            · cases none.symm.trans stands
          rcases read with old | now
          · rcases ih old stood with same | ⟨before, between, rfl, calls⟩
            · exact .inl same
            · refine .inr ⟨before, between ++ [h], by simp, ?_⟩
              intro g mem
              rcases List.mem_append.1 mem with old | new
              · exact calls g old
              · rwa [List.mem_singleton.1 new]
          · exact .inl (Option.some.inj (stood.symm.trans (content_of_read now)))
      | false =>
          cases h with
          | written bs' =>
              rw [content_written placed] at stands
              cases stands
              exact .inr ⟨hs, [], rfl, by simp⟩
          | deleted =>
              rw [content_deleted] at stands
              cases stands
          | loadConfig => cases call
          | loadSettings => cases call
          | commit => cases call

def Removes (cwd : Location) (s : StoreWorld ρ) (bs : Bytes) : Prop :=
  content cwd s = some bs ∧ content cwd (Happening.commit.effect cwd s) = none

theorem removes_iff : Removes cwd s bs ↔ s.store.taken = true ∧ content cwd s = some bs := by
  rw [Removes, content_commit]
  cases s.store.taken with
  | false =>
      simp only [Bool.false_eq_true, if_false, false_and, iff_false, not_and]
      rintro stands none
      cases none.symm.trans stands
  | true => simp

theorem stays {between : List (Happening ρ)} (calls : ∀ h ∈ between, h.isCall = true)
    (stands : content cwd s = some bs) :
    content cwd (after cwd between s) = some bs ∨
      ∃ cs ds, between = cs ++ .commit :: ds ∧ Removes cwd (after cwd cs s) bs := by
  induction between generalizing s with
  | nil => exact .inl stands
  | cons h rest ih =>
      obtain ⟨call, calls⟩ := List.forall_mem_cons.1 calls
      rcases content_call call s with same | ⟨rfl, none⟩
      · rcases ih calls (same.trans stands) with still | ⟨cs, ds, rfl, removes⟩
        · exact .inl still
        · exact .inr ⟨h :: cs, ds, rfl, removes⟩
      · exact .inr ⟨[], rest, rfl, stands, none⟩

def HandedOver (path : Path) (ds : List Deed) (bs : Bytes) : Prop :=
  .read bs ∈ ds ∧ ∃ c, .handed c ∈ ds ∧ snapshot path bs = .ok c

/-- Each commit that removes the file removes what was handed over before. -/
def RemovesHandedOver (cwd : Location) (path : Path) (hs : List (Happening ρ))
    (s : StoreWorld ρ) : Prop :=
  ∀ before rest bs, hs = before ++ .commit :: rest → Removes cwd (after cwd before s) bs →
    HandedOver path (deeds cwd before s) bs

/-- A commit after the config of `o` was handed over finds `bs`, the last that was written. -/
def Replaced (cwd : Location) (hs : List (Happening ρ)) (s : StoreWorld ρ) (o bs : Bytes) : Prop :=
  ∃ before between rest, hs = (before ++ .written bs :: between) ++ .commit :: rest ∧
    (∀ h ∈ between, h.isCall = true) ∧
    .read o ∈ deeds cwd (before ++ .written bs :: between) s ∧
    ∃ c, .handed c ∈ deeds cwd (before ++ .written bs :: between) s

theorem removesHandedOver_iff (cwd : Location) (path : Path) (hs : List (Happening ρ))
    (w : World ρ) :
    RemovesHandedOver cwd path hs (opened path w) ↔
      ∀ o bs, Replaced cwd hs (opened path w) o bs → bs = o := by
  have tracks (hs : List (Happening ρ)) :
      Tracks path (deeds cwd hs (opened path w)) (after cwd hs (opened path w)) :=
    tracks_after hs (tracks_opened path w)
  constructor
  · rintro all o bs ⟨before, between, rest, rfl, calls, read, handed⟩
    have known := tracks (before ++ .written bs :: between)
    have placed : Placed cwd (after cwd before (opened path w)) :=
      (placed_after cwd before _).2 (placed_of_read read)
    have written := content_written placed bs
    rcases stays calls written with still | ⟨cs, ds, rfl, removes⟩
    · have stood : content cwd (after cwd (before ++ .written bs :: between) (opened path w)) =
          some bs := by
        rwa [after_append]
      have here := removes_iff.2 ⟨known.taken.2 handed, stood⟩
      exact known.read_unique read (all _ rest bs rfl here).1
    · have there : Removes cwd (after cwd (before ++ .written bs :: cs) (opened path w)) bs := by
        rwa [after_append]
      have split : (before ++ .written bs :: (cs ++ .commit :: ds)) ++ .commit :: rest =
          (before ++ .written bs :: cs) ++ .commit :: (ds ++ .commit :: rest) := by simp
      have early := (all _ _ bs split there).1
      apply known.read_unique read
      have whole : before ++ .written bs :: (cs ++ .commit :: ds) =
          (before ++ .written bs :: cs) ++ .commit :: ds := by simp
      rw [whole, deeds_append]
      exact List.mem_append_left _ early
  · rintro all before rest bs rfl removes
    obtain ⟨taken, stands⟩ := removes_iff.1 removes
    obtain ⟨o, c, handed, made, only⟩ := (tracks before).handed_of_taken taken
    have same : bs = o := by
      rcases content_cases ((only o).2 rfl) stands with same | ⟨start, between, rfl, calls⟩
      · exact same
      · exact all o bs ⟨start, between, rest, rfl, calls, (only o).2 rfl, c, handed⟩
    cases same
    exact ⟨(only bs).2 rfl, c, handed, made⟩

def blankPath : Path :=
  ⟨.slash, ["w", "store"]⟩

def blankStore : StoreWorld Unit :=
  opened blankPath ⟨⟨[(["w"], .directory), (["w", "store"], .file [])]⟩, ()⟩

def overwritten : List (Happening Unit) :=
  [.loadConfig, .written (Text.Utf8.encode "#"), .commit]

theorem not_removesHandedOver_overwritten :
    ¬ RemovesHandedOver ["w"] blankPath overwritten blankStore := by
  have known : deeds ["w"] [.loadConfig, .written (Text.Utf8.encode "#")] blankStore =
      [.read [], .handed {}] := by rfl
  have replaced : Replaced ["w"] overwritten blankStore [] (Text.Utf8.encode "#") :=
    ⟨[.loadConfig], [], [], rfl, by simp, by simp [known], {}, by simp [known]⟩
  intro all
  cases (removesHandedOver_iff ["w"] blankPath overwritten _).1 all _ _ replaced

end Handover.LegacyStore
