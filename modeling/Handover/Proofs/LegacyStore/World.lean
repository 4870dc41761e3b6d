import Handover.Proofs.Except
import Handover.Proofs.LegacyStore.Loading
import Handover.Proofs.Settings.Within

/-!
A store among files and live settings that all belong to one world: how each call to it ends, and
what the call leaves of the world.
-/

namespace Handover

structure World (ρ : Type) where
  tree : FileTree
  rest : ρ

structure StoreWorld (ρ : Type) where
  store : LegacyStore
  world : World ρ

namespace StoreWorld

variable {ρ : Type}

def site (s : StoreWorld ρ) : StoreSite :=
  ⟨s.store, s.world.tree⟩

def withSite (t : StoreSite) (s : StoreWorld ρ) : StoreWorld ρ :=
  ⟨t.store, ⟨t.tree, s.world.rest⟩⟩

def withWorld (w : World ρ) (s : StoreWorld ρ) : StoreWorld ρ :=
  ⟨s.store, w⟩

theorem partOf_world : Action.PartOf (world (ρ := ρ)) withWorld :=
  ⟨fun _ _ => rfl, fun _ => rfl, fun _ _ _ => rfl⟩

end StoreWorld

section

variable {ρ : Type}

def SameEntry (cwd : Location) (path : Path) (w w' : World ρ) : Prop :=
  ∀ e, w.tree.stat cwd path = .ok e ↔ w'.tree.stat cwd path = .ok e

theorem sameEntry_equivalence (cwd : Location) (path : Path) :
    Equivalence (SameEntry (ρ := ρ) cwd path) where
  refl _ _ := Iff.rfl
  symm h e := (h e).symm
  trans h h' e := (h e).trans (h' e)

theorem SameEntry.read {cwd : Location} {path : Path} {w w' : World ρ} (h : SameEntry cwd path w w')
    {bs : Bytes} (stored : w.tree.read cwd path = .ok bs) : w'.tree.read cwd path = .ok bs := by
  obtain ⟨l, hl, hf⟩ := FileTree.read_eq_ok_iff.1 stored
  obtain ⟨m, hm, hg⟩ := FileTree.stat_eq_ok_iff.1 ((h _).1 (FileTree.stat_eq_ok_iff.2 ⟨l, hl, hf⟩))
  exact FileTree.read_eq_ok_iff.2 ⟨m, hm, hg⟩

theorem SameEntry.isThere {cwd : Location} {path : Path} {w w' : World ρ}
    (h : SameEntry cwd path w w') : w.tree.isThere cwd path = w'.tree.isThere cwd path := by
  rw [Bool.eq_iff_iff, FileTree.isThere, FileTree.isThere]
  cases hw : w.tree.stat cwd path with
  | ok e => simp [(h e).1 hw]
  | error f =>
      cases hw' : w'.tree.stat cwd path with
      | ok e =>
          have := (h e).2 hw'
          simp [hw] at this
      | error _ => rfl

end

namespace LegacyStore

variable {ρ : Type}

def fileSource (cwd : Location) : Source (StoreWorld ρ) :=
  source cwd StoreWorld.site StoreWorld.withSite Source.live

def inStore (p : Provider (World ρ)) : Provider (StoreWorld ρ) :=
  p.within StoreWorld.world StoreWorld.withWorld

def snapshot (path : Path) (bs : Bytes) : Except Fault ConfigSnapshot :=
  match parse path.text bs with
  | .error e => .error e
  | .ok es => (config es).mapError (.store path.text)

theorem snapshot_eq_ok_iff {path : Path} {bs : Bytes} {c : ConfigSnapshot} :
    snapshot path bs = .ok c ↔ ∃ es, parse path.text bs = .ok es ∧ config es = .ok c := by
  unfold snapshot
  generalize parse path.text bs = parsed
  cases parsed with
  | error e => simp
  | ok es => simp [Except.mapError_eq_ok_iff]

inductive ReadEnds (cwd : Location) (s : StoreSite) :
    Except Fault (Option (List (Value × Value))) → StoreSite → Prop where
  | kept {es} (cached : s.store.cache = some es) : ReadEnds cwd s (.ok (some es)) s
  | absent (unread : s.store.cache = none) (missing : s.tree.isThere cwd s.store.path = false) :
      ReadEnds cwd s (.ok none) s
  | closed {e} (unread : s.store.cache = none) (there : s.tree.isThere cwd s.store.path = true)
      (refused : s.tree.read cwd s.store.path = .error e) : ReadEnds cwd s (.error (.file e)) s
  | unparsed {bs e} (unread : s.store.cache = none) (stored : s.tree.read cwd s.store.path = .ok bs)
      (refused : parse s.store.path.text bs = .error e) : ReadEnds cwd s (.error e) s
  | parsed {bs es} (unread : s.store.cache = none) (stored : s.tree.read cwd s.store.path = .ok bs)
      (parsed : parse s.store.path.text bs = .ok es) :
      ReadEnds cwd s (.ok (some es)) ⟨⟨s.store.path, some es, s.store.taken⟩, s.tree⟩

theorem read_ends (cwd : Location) (s : StoreSite) :
    ReadEnds cwd s (read cwd s).value (read cwd s).state := by
  unfold read
  cases cached : s.store.cache with
  | some es => exact .kept cached
  | none =>
      cases there : s.tree.isThere cwd s.store.path with
      | false => exact .absent cached there
      | true =>
          cases stored : s.tree.read cwd s.store.path with
          | error e => exact .closed cached there stored
          | ok bs =>
              cases parsed : parse s.store.path.text bs with
              | error e =>
                  simp only [if_true, parsed]
                  exact .unparsed cached stored parsed
              | ok es =>
                  simp only [if_true, parsed]
                  exact .parsed cached stored parsed

inductive LoadEnds (cwd : Location) (s : StoreSite) :
    Except Fault (Option ConfigSnapshot) → StoreSite → Prop where
  | again (taken : s.store.taken = true) : LoadEnds cwd s (.ok none) s
  | unread {e u} (untaken : s.store.taken = false) (read : ReadEnds cwd s (.error e) u) :
      LoadEnds cwd s (.error e) u
  | absent {u} (untaken : s.store.taken = false) (read : ReadEnds cwd s (.ok none) u) :
      LoadEnds cwd s (.ok none) u
  | refused {es e u} (untaken : s.store.taken = false) (read : ReadEnds cwd s (.ok (some es)) u)
      (refused : config es = .error e) : LoadEnds cwd s (.error (.store s.store.path.text e)) u
  | handed {es c u} (untaken : s.store.taken = false) (read : ReadEnds cwd s (.ok (some es)) u)
      (made : config es = .ok c) :
      LoadEnds cwd s (.ok (some c)) ⟨⟨u.store.path, u.store.cache, true⟩, u.tree⟩

theorem loadConfig_ends (cwd : Location) (s : StoreSite) :
    LoadEnds cwd s (loadConfig cwd s).value (loadConfig cwd s).state := by
  have ends := read_ends cwd s
  simp only [loadConfig, Action.bind_apply, Action.get]
  cases taken : s.store.taken with
  | true => exact .again taken
  | false =>
      simp only [Bool.false_eq_true, if_false, Action.bind_apply]
      generalize read cwd s = r at ends ⊢
      rcases r with ⟨e | _ | es, u, journal⟩
      · exact .unread taken ends
      · exact .absent taken ends
      · cases made : config es with
        | error e =>
            simp only [made]
            exact .refused taken ends made
        | ok c =>
            simp only [made]
            exact .handed taken ends made

theorem ReadEnds.tree {cwd : Location} {s u : StoreSite} {value}
    (h : ReadEnds cwd s value u) : u.tree = s.tree := by
  cases h <;> rfl

theorem LoadEnds.tree {cwd : Location} {s u : StoreSite} {value} (h : LoadEnds cwd s value u) :
    u.tree = s.tree := by
  cases h with
  | again => rfl
  | unread _ read => exact read.tree
  | absent _ read => exact read.tree
  | refused _ read => exact read.tree
  | handed _ read => exact read.tree

theorem ReadEnds.path {cwd : Location} {s u : StoreSite} {value} (h : ReadEnds cwd s value u) :
    u.store.path = s.store.path := by
  cases h <;> rfl

theorem LoadEnds.path {cwd : Location} {s u : StoreSite} {value} (h : LoadEnds cwd s value u) :
    u.store.path = s.store.path := by
  cases h with
  | again => rfl
  | unread _ read => exact read.path
  | absent _ read => exact read.path
  | refused _ read => exact read.path
  | handed _ read => exact read.path

theorem loadConfig_within (cwd : Location) (s : StoreWorld ρ) :
    (fileSource cwd).loadConfig.Ends s (loadConfig cwd s.site).value
      ⟨(loadConfig cwd s.site).state.store, s.world⟩ := by
  have tree : (loadConfig cwd s.site).state.tree = s.world.tree := (loadConfig_ends cwd s.site).tree
  refine ⟨rfl, ?_⟩
  change StoreWorld.withSite (loadConfig cwd s.site).state s = _
  rw [StoreWorld.withSite, tree]

def own (path : Path) (found : Option (List (Value × Value))) :
    Except Fault (Option SettingsSnapshot) :=
  match found with
  | none => .ok none
  | some es => settings path.text es

theorem ownSettings_within (cwd : Location) (s : StoreWorld ρ) :
    ((ownSettings cwd).zoom StoreWorld.site StoreWorld.withSite s).value =
        (read cwd s.site).value.bind (own s.store.path) ∧
      ((ownSettings cwd).zoom StoreWorld.site StoreWorld.withSite s).state =
        ⟨(read cwd s.site).state.store, s.world⟩ := by
  have tree := (read_ends cwd s.site).tree
  simp only [ownSettings, Action.zoom, Action.bind_apply, Action.get]
  generalize read cwd s.site = r at tree ⊢
  obtain ⟨e | _ | es, ⟨store, t⟩, journal⟩ := r
  all_goals
    cases tree
    exact ⟨rfl, rfl⟩

def answered {σ : Type} (fallback : Action σ Fault SettingsSnapshot) (s : σ) :
    Except Fault (Option SettingsSnapshot) → Except Fault SettingsSnapshot × σ
  | .error e => (.error e, s)
  | .ok (some x) => (.ok x, s)
  | .ok none => ((fallback s).value, (fallback s).state)

theorem source_ends (cwd : Location) (fallback : Source (StoreWorld ρ))
    (environment : Provider (StoreWorld ρ)) (s : StoreWorld ρ) :
    ((source cwd StoreWorld.site StoreWorld.withSite fallback).loadSettings environment).Ends s
      (answered (fallback.loadSettings environment) ⟨(read cwd s.site).state.store, s.world⟩
        ((read cwd s.site).value.bind (own s.store.path))).1
      (answered (fallback.loadSettings environment) ⟨(read cwd s.site).state.store, s.world⟩
        ((read cwd s.site).value.bind (own s.store.path))).2 := by
  obtain ⟨value, state⟩ := ownSettings_within cwd s
  have first : ((ownSettings cwd).zoom StoreWorld.site StoreWorld.withSite).Ends s _ _ :=
    ⟨value, state⟩
  generalize (read cwd s.site).value.bind (own s.store.path) = given at first
  cases given with
  | error e => exact first.bind_error _
  | ok found =>
      cases found with
      | some x => exact first.bind (Action.ends _ _)
      | none => exact first.bind (Action.ends _ _)

theorem loadSettings_live (p : Provider (World ρ)) (s : StoreWorld ρ) :
    ((Source.live.loadSettings (inStore p) : Action (StoreWorld ρ) _ _) s).value =
        (p.load s.world).value.mapError Fault.unavailable ∧
      ((Source.live.loadSettings (inStore p) : Action (StoreWorld ρ) _ _) s).state =
        ⟨s.store, (p.load s.world).state⟩ := by
  have live : (Source.live.loadSettings (inStore p) : Action (StoreWorld ρ) _ _) =
      (p.load.mapError Fault.unavailable).zoom StoreWorld.world StoreWorld.withWorld := by
    rw [← Action.zoom_mapError, ← Provider.load_within StoreWorld.partOf_world]
    rfl
  rw [live]
  obtain ⟨value, state⟩ := Action.mapError_ends Fault.unavailable p.load s.world
  simp only [Action.zoom, StoreWorld.withWorld, value, state, and_self]

def settled (p : Provider (World ρ)) (w : World ρ) :
    Except Fault (Option SettingsSnapshot) → Except Fault SettingsSnapshot × World ρ
  | .error e => (.error e, w)
  | .ok (some x) => (.ok x, w)
  | .ok none => ((p.load w).value.mapError .unavailable, (p.load w).state)

theorem sameEntry_settled {cwd : Location} {path : Path} {p : Provider (World ρ)}
    (reads : ∀ key, Action.Respects (SameEntry cwd path) (p.getString key)) (w : World ρ)
    (given : Except Fault (Option SettingsSnapshot)) :
    SameEntry cwd path w (settled p w given).2 := by
  have same := sameEntry_equivalence (ρ := ρ) cwd path
  cases given with
  | error e => exact same.refl w
  | ok found =>
      cases found with
      | some x => exact same.refl w
      | none => exact Provider.respects_load same reads w

theorem loadSettings_ends (cwd : Location) (p : Provider (World ρ)) (s : StoreWorld ρ) :
    ((fileSource cwd).loadSettings (inStore p)).Ends s
      (settled p s.world ((read cwd s.site).value.bind (own s.store.path))).1
      ⟨(read cwd s.site).state.store,
        (settled p s.world ((read cwd s.site).value.bind (own s.store.path))).2⟩ := by
  have ends := source_ends cwd Source.live (inStore p) s
  generalize (read cwd s.site).value.bind (own s.store.path) = given at ends ⊢
  cases given with
  | error e => exact ends
  | ok found =>
      cases found with
      | some x => exact ends
      | none =>
          obtain ⟨value, state⟩ :=
            loadSettings_live p (⟨(read cwd s.site).state.store, s.world⟩ : StoreWorld ρ)
          exact ⟨ends.value.trans value, ends.state.trans state⟩

theorem read_cached {cwd : Location} {s : StoreSite} {es : List (Value × Value)}
    (cached : s.store.cache = some es) : read cwd s = ⟨.ok (some es), s, []⟩ := by
  simp [read, cached]

theorem read_absent {cwd : Location} {s : StoreSite} (unread : s.store.cache = none)
    (missing : s.tree.isThere cwd s.store.path = false) : read cwd s = ⟨.ok none, s, []⟩ := by
  simp [read, unread, missing]

theorem loadConfig_absent {cwd : Location} {s : StoreSite} (untaken : s.store.taken = false)
    (unread : s.store.cache = none) (missing : s.tree.isThere cwd s.store.path = false) :
    (loadConfig cwd).Ends s (.ok none) s := by
  constructor <;>
    simp [loadConfig, Action.bind_apply, Action.get, untaken, read_absent unread missing,
      Action.log, Action.pure_apply]

theorem state_commit (cwd : Location) (s : StoreSite) :
    (commit cwd s).state =
      ⟨s.store, if s.store.taken then committed s.tree cwd s.store.path else s.tree⟩ := by
  cases taken : s.store.taken with
  | false => simp [commit, taken]
  | true =>
      cases there : s.tree.isThere cwd s.store.path with
      | false => simp [commit, committed, taken, there]
      | true =>
          cases unlinked : s.tree.unlink cwd s.store.path <;>
            simp [commit, committed, taken, there, unlinked]

theorem committed_eq (t : FileTree) (cwd : Location) (path : Path) :
    committed t cwd path =
      match t.unlink cwd path with
      | .ok u => u
      | .error _ => t := by
  rw [committed]
  cases unlinked : t.unlink cwd path with
  | error e => simp
  | ok u =>
      obtain ⟨bs, stored⟩ := FileTree.read_of_unlink unlinked
      simp [FileTree.isThere_of_read stored]

theorem isThere_committed {t : FileTree} {cwd : Location} {path : Path} {bs : Bytes}
    (stored : t.read cwd path = .ok bs) : (committed t cwd path).isThere cwd path = false := by
  obtain ⟨u, unlinked⟩ := FileTree.unlink_of_read stored
  rw [committed_eq, unlinked]
  exact FileTree.isThere_of_unlink unlinked

theorem read_committed (t : FileTree) (cwd : Location) (path : Path) (bs : Bytes) :
    (committed t cwd path).read cwd path ≠ .ok bs := by
  intro stored
  cases unlinked : t.unlink cwd path with
  | ok u =>
      have gone := FileTree.isThere_of_unlink unlinked
      rw [committed_eq, unlinked] at stored
      rw [FileTree.isThere_of_read stored] at gone
      cases gone
  | error e =>
      rw [committed_eq, unlinked] at stored
      obtain ⟨u, unlinked'⟩ := FileTree.unlink_of_read stored
      cases unlinked.symm.trans unlinked'

theorem sameDirectories_committed (t : FileTree) (cwd : Location) (path : Path) :
    t.SameDirectories (committed t cwd path) := by
  rw [committed_eq]
  split
  · next unlinked => exact FileTree.sameDirectories_unlink unlinked
  · exact fun _ => Iff.rfl

theorem value_commit {cwd : Location} {s : StoreSite} {bs : Bytes}
    (stored : s.tree.read cwd s.store.path = .ok bs) : (commit cwd s).value = .ok () := by
  obtain ⟨u, unlinked⟩ := FileTree.unlink_of_read stored
  cases taken : s.store.taken <;> simp [commit, taken, FileTree.isThere_of_read stored, unlinked]

theorem value_commit_untaken {cwd : Location} {s : StoreSite} (untaken : s.store.taken = false) :
    (commit cwd s).value = .ok () := by
  simp [commit, untaken]

theorem commit_within (cwd : Location) (s : StoreWorld ρ) :
    (fileSource cwd).commit.Ends s (commit cwd s.site).value
      ⟨s.store, ⟨if s.store.taken then committed s.world.tree cwd s.store.path else s.world.tree,
        s.world.rest⟩⟩ := by
  refine ⟨rfl, ?_⟩
  change StoreWorld.withSite (commit cwd s.site).state s = _
  rw [state_commit]
  rfl

end LegacyStore

end Handover
