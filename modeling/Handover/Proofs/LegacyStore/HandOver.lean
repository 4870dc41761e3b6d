import Handover.Proofs.LegacyStore.Removal

namespace Handover.LegacyStore

variable {ρ : Type}

def Deed.isHandOver : Deed → Bool
  | read _ => false
  | handed _ => true

inductive Leaves (cwd : Location) (path : Path) (ds : List Deed) (t : FileTree) :
    Happening ρ → FileTree → Prop where
  | loadConfig : Leaves cwd path ds t .loadConfig t
  | loadSettings fallback : Leaves cwd path ds t (.loadSettings fallback) t
  | early (unclaimed : ∀ c, .handed c ∉ ds) : Leaves cwd path ds t .commit t
  | absent (nothing : ∀ bs, t.read cwd path ≠ .ok bs) : Leaves cwd path ds t .commit t
  | removed {c l bs u} (claimed : .handed c ∈ ds) (place : t.locate cwd path = .ok l)
      (file : t.find? l = some (.file bs))
      (found : ∀ m, u.find? m = if m = l then none else t.find? m) :
      Leaves cwd path ds t .commit u

structure HandsOverOnce (cwd : Location) (path : Path) (hs : List (Happening ρ))
    (s : StoreWorld ρ) : Prop where
  once : (deeds cwd hs s).countP Deed.isHandOver ≤ 1
  leaves : ∀ before h rest, hs = before ++ h :: rest → h.isCall = true →
    Leaves cwd path (deeds cwd before s) (after cwd before s).world.tree h
      (h.effect cwd (after cwd before s)).world.tree

variable {cwd : Location} {path : Path} {ds : List Deed} {s s' : StoreWorld ρ}

theorem countP_filled (cwd : Location) (s s' : StoreWorld ρ) :
    (filled cwd s s').countP Deed.isHandOver = 0 := by
  rw [List.countP_eq_zero]
  intro d mem
  rw [filled] at mem
  split at mem
  · obtain ⟨bs, -, rfl⟩ := List.mem_map.1 mem
    exact Bool.false_ne_true
  · cases mem

theorem ReadEnds.taken {s u : StoreSite} {value} (h : ReadEnds cwd s value u) :
    u.store.taken = s.store.taken := by
  cases h <;> rfl

theorem countP_loadConfig (cwd : Location) (s : StoreWorld ρ) :
    (Happening.loadConfig.deeds cwd s).countP Deed.isHandOver + s.store.taken.toNat =
      (Happening.loadConfig.effect cwd s).store.taken.toNat := by
  have ends := loadConfig_ends cwd s.site
  rw [Happening.deeds, List.countP_append, countP_filled, Nat.zero_add,
    (loadConfig_within cwd s).value, effect_loadConfig]
  generalize (loadConfig cwd s.site).value = value, (loadConfig cwd s.site).state = u at ends ⊢
  have none (same : u.store.taken = s.store.taken) :
      0 + s.store.taken.toNat = u.store.taken.toNat := by
    rw [same, Nat.zero_add]
  cases ends with
  | again => exact none rfl
  | unread _ read => exact none read.taken
  | absent _ read => exact none read.taken
  | refused _ read => exact none read.taken
  | handed untaken =>
      have first : s.store.taken = false := untaken
      rw [first]
      rfl

/-- The flag of a store counts the configs that it hands over. -/
theorem countP_effect (cwd : Location) (h : Happening ρ) (s : StoreWorld ρ) :
    (h.deeds cwd s).countP Deed.isHandOver + s.store.taken.toNat =
      (h.effect cwd s).store.taken.toNat := by
  have idle (none : h.isLoader = false) :
      0 + s.store.taken.toNat = (h.effect cwd s).store.taken.toNat := by
    rw [store_effect none, Nat.zero_add]
  cases h with
  | loadConfig => exact countP_loadConfig cwd s
  | loadSettings fallback =>
      rw [Happening.deeds, countP_filled, (effect_loadSettings cwd fallback s).1,
        (read_ends cwd s.site).taken]
      exact Nat.zero_add _
  | commit => exact idle rfl
  | written bs => exact idle rfl
  | deleted => exact idle rfl

theorem countP_after (cwd : Location) (hs : List (Happening ρ)) (s : StoreWorld ρ) :
    (deeds cwd hs s).countP Deed.isHandOver + s.store.taken.toNat =
      (after cwd hs s).store.taken.toNat := by
  induction hs generalizing s with
  | nil => exact Nat.zero_add _
  | cons h rest ih =>
      have now := countP_effect cwd h s
      have later := ih (h.effect cwd s)
      rw [deeds, after, List.countP_append]
      omega

theorem Tracks.leaves_commit (tracks : Tracks path ds s) :
    Leaves cwd path ds s.world.tree (.commit : Happening ρ)
      (Happening.commit.effect cwd s).world.tree := by
  rw [effect_commit, tracks.place]
  dsimp only
  cases taken : s.store.taken with
  | false =>
      apply Leaves.early
      intro c claimed
      have := tracks.taken.2 ⟨c, claimed⟩
      simp [taken] at this
  | true =>
      obtain ⟨c, claimed⟩ := tracks.taken.1 taken
      rw [if_pos rfl, committed_eq]
      cases unlinked : s.world.tree.unlink cwd path with
      | error e =>
          apply Leaves.absent
          intro bs stored
          obtain ⟨u, unlinked'⟩ := FileTree.unlink_of_read stored
          cases unlinked.symm.trans unlinked'
      | ok u =>
          obtain ⟨l, bs, place, file, rfl⟩ := FileTree.unlink_eq_ok_iff.1 unlinked
          have root : l ≠ [] := FileTree.ne_nil_of_find? (t := s.world.tree) (by simp [file])
          exact .removed claimed place file (FileTree.find?_remove_of_ne_nil _ root)

theorem Tracks.leaves (tracks : Tracks path ds s) {h : Happening ρ} (call : h.isCall = true) :
    Leaves cwd path ds s.world.tree h (h.effect cwd s).world.tree := by
  cases h with
  | loadConfig =>
      rw [effect_loadConfig]
      exact .loadConfig
  | loadSettings fallback =>
      rw [(effect_loadSettings cwd fallback s).2]
      exact .loadSettings fallback
  | commit => exact tracks.leaves_commit
  | written bs => cases call
  | deleted => cases call

theorem handsOverOnce_opened (cwd : Location) (path : Path) (hs : List (Happening ρ))
    (w : World ρ) : HandsOverOnce cwd path hs (opened path w) := by
  constructor
  · have count := countP_after cwd hs (opened path w)
    have most := Bool.toNat_le (after cwd hs (opened path w)).store.taken
    omega
  · intro before h rest _ call
    exact (tracks_run cwd path before w).leaves call

end Handover.LegacyStore
