import Handover.Proofs.Consumer.Claim
import Handover.Proofs.LegacyStore.World

namespace Handover

variable {ρ : Type}

open LegacyStore (fileSource inStore settled)

def boot (cwd : Location) (path : Path) (p : Provider (World ρ)) : Action (World ρ) Fault Outcome :=
  fun w =>
    let r := (⟨some (fileSource cwd), some (inStore p)⟩ : Consumer (StoreWorld ρ)).run
      { site := ⟨{ path }, w⟩ }
    ⟨r.value, r.state.site.world, r.journal⟩

def offered (path : Path) (bs : Bytes) (p : Provider (World ρ)) (w : World ρ) :
    Except Fault Outcome :=
  match LegacyStore.parse path.text bs with
  | .error e => .error e
  | .ok es =>
      match LegacyStore.config es with
      | .error e => .error (.store path.text e)
      | .ok config =>
          (settled p w (LegacyStore.settings path.text es)).1.map fun settings =>
            { config := some config, settings := some settings }

variable {cwd : Location} {path : Path} {bs : Bytes} {p : Provider (World ρ)} {w : World ρ}

theorem config_offered {o : Outcome} (given : offered path bs p w = .ok o) :
    ∃ c, o.config = some c ∧ LegacyStore.snapshot path bs = .ok c := by
  unfold offered at given
  cases parsed : LegacyStore.parse path.text bs with
  | error e => simp [parsed] at given
  | ok es =>
      cases made : LegacyStore.config es with
      | error e => simp [parsed, made] at given
      | ok c =>
          simp only [parsed, made] at given
          cases loaded : (settled p w (LegacyStore.settings path.text es)).1 with
          | error e => simp [loaded, Except.map] at given
          | ok x =>
              rw [loaded] at given
              cases given
              exact ⟨c, rfl, LegacyStore.snapshot_eq_ok_iff.2 ⟨es, parsed, made⟩⟩

theorem boot_ends (cwd : Location) (path : Path) (p : Provider (World ρ)) (w : World ρ) :
    (boot cwd path p w).value =
        (Consumer.handOver (fileSource cwd) (inStore p) ⟨{ path }, w⟩).value ∧
      (boot cwd path p w).state =
        (Consumer.handOver (fileSource cwd) (inStore p) ⟨{ path }, w⟩).state.world := by
  obtain ⟨value, state⟩ := Consumer.pull_unclaimed (fileSource cwd) (inStore p)
    (b := { site := ⟨{ path }, w⟩ }) rfl
  exact ⟨value, by rw [boot, Consumer.run, state]⟩

theorem settings_cached (cwd : Location) (path : Path) (p : Provider (World ρ)) (w : World ρ)
    (es : List (Value × Value)) (taken : Bool) :
    ((fileSource cwd).loadSettings (inStore p)).Ends ⟨⟨path, some es, taken⟩, w⟩
      (settled p w (LegacyStore.settings path.text es)).1
      ⟨⟨path, some es, taken⟩, (settled p w (LegacyStore.settings path.text es)).2⟩ := by
  have ends := LegacyStore.loadSettings_ends cwd p ⟨⟨path, some es, taken⟩, w⟩
  rwa [LegacyStore.read_cached rfl] at ends

theorem boot_stored (stored : w.tree.read cwd path = .ok bs)
    (reads : ∀ key, Action.Respects (SameEntry cwd path) (p.getString key)) :
    match offered path bs p w with
    | .error e => (boot cwd path p w).value = .error e ∧
        (boot cwd path p w).state.tree.read cwd path = .ok bs
    | .ok o => (boot cwd path p w).value = .ok o ∧
        (boot cwd path p w).state.tree.isThere cwd path = false := by
  obtain ⟨value, state⟩ := boot_ends cwd path p w
  rw [value, state]
  have config := LegacyStore.loadConfig_within cwd (⟨{ path }, w⟩ : StoreWorld ρ)
  rw [StoreWorld.site, ← LegacyStore.fresh, LegacyStore.loadConfig_fresh stored] at config
  unfold offered
  cases parsed : LegacyStore.parse path.text bs with
  | error e =>
      rw [parsed] at config
      have all : (Consumer.handOver (fileSource cwd) (inStore p)).Ends _ _ _ :=
        (Consumer.HandOverEnds.config config).ends
      exact ⟨all.value, by rwa [all.state]⟩
  | ok es =>
      rw [parsed] at config
      dsimp only at config ⊢
      cases made : LegacyStore.config es with
      | error e =>
          rw [made] at config
          have all : (Consumer.handOver (fileSource cwd) (inStore p)).Ends _ _ _ :=
            (Consumer.HandOverEnds.config config).ends
          exact ⟨all.value, by rwa [all.state]⟩
      | ok c =>
          rw [made] at config
          have settings := settings_cached cwd path p w es true
          have same := LegacyStore.sameEntry_settled reads w (LegacyStore.settings path.text es)
          generalize settled p w (LegacyStore.settings path.text es) = r at settings same ⊢
          obtain ⟨x, w'⟩ := r
          have kept := same.read stored
          cases x with
          | error e =>
              have all := (Consumer.HandOverEnds.settings config settings).ends
              exact ⟨all.value, by rwa [all.state]⟩
          | ok x =>
              have commit := LegacyStore.commit_within cwd
                (⟨⟨path, some es, true⟩, w'⟩ : StoreWorld ρ)
              rw [LegacyStore.value_commit kept] at commit
              have all := (Consumer.HandOverEnds.done config settings commit).ends
              refine ⟨all.value, ?_⟩
              rw [all.state]
              exact LegacyStore.isThere_committed kept

theorem boot_absent (missing : w.tree.isThere cwd path = false)
    (reads : ∀ key, Action.Respects (SameEntry cwd path) (p.getString key)) :
    (boot cwd path p w).value =
        ((p.load w).value.mapError .unavailable).map (fun x => { settings := some x }) ∧
      (boot cwd path p w).state.tree.isThere cwd path = false := by
  obtain ⟨value, state⟩ := boot_ends cwd path p w
  rw [value, state]
  have config := LegacyStore.loadConfig_within cwd (⟨{ path }, w⟩ : StoreWorld ρ)
  have absent : (LegacyStore.loadConfig cwd).Ends ⟨{ path }, w.tree⟩ (.ok none) _ :=
    LegacyStore.loadConfig_absent rfl rfl missing
  rw [StoreWorld.site, absent.value, absent.state] at config
  have settings := LegacyStore.loadSettings_ends cwd p ⟨{ path }, w⟩
  rw [LegacyStore.read_absent rfl missing] at settings
  have same := LegacyStore.sameEntry_settled reads w (.ok none)
  have gone : (p.load w).state.tree.isThere cwd path = false := same.isThere ▸ missing
  have loaded : (settled p w (.ok none)).1 = (p.load w).value.mapError .unavailable := rfl
  dsimp only [Except.bind, LegacyStore.own] at settings
  rw [loaded] at settings
  generalize (p.load w).value.mapError Fault.unavailable = x at settings ⊢
  cases x with
  | error e =>
      have all := (Consumer.HandOverEnds.settings config settings).ends
      exact ⟨all.value, by rwa [all.state]⟩
  | ok x =>
      have commit := LegacyStore.commit_within cwd (⟨{ path }, (p.load w).state⟩ : StoreWorld ρ)
      rw [LegacyStore.value_commit_untaken rfl] at commit
      have all := (Consumer.HandOverEnds.done config settings commit).ends
      exact ⟨all.value, by rwa [all.state]⟩

structure Startup (ρ : Type) where
  meanwhile : World ρ → World ρ
  provider : Provider (World ρ)

structure Startup.Spares (x : Startup ρ) (cwd : Location) (path : Path) : Prop where
  meanwhile : ∀ w, SameEntry cwd path w (x.meanwhile w)
  provider : ∀ key, Action.Respects (SameEntry cwd path) (x.provider.getString key)

structure BootRecord (ρ : Type) where
  provider : Provider (World ρ)
  before : World ρ
  result : Result (World ρ) Fault Outcome

def boots (cwd : Location) (path : Path) : List (Startup ρ) → World ρ → List (BootRecord ρ)
  | [], _ => []
  | x :: rest, w =>
      let r := boot cwd path x.provider (x.meanwhile w)
      ⟨x.provider, x.meanwhile w, r⟩ :: boots cwd path rest r.state

namespace BootRecord

def Kept (cwd : Location) (path : Path) (bs : Bytes) (r : BootRecord ρ) : Prop :=
  (∃ e, offered path bs r.provider r.before = .error e ∧ r.result.value = .error e) ∧
    r.result.state.tree.read cwd path = .ok bs

def TookOver (cwd : Location) (path : Path) (bs : Bytes) (r : BootRecord ρ) : Prop :=
  (∃ o c, offered path bs r.provider r.before = .ok o ∧ r.result.value = .ok o ∧
    o.config = some c ∧ LegacyStore.snapshot path bs = .ok c) ∧
    r.result.state.tree.isThere cwd path = false

def Settled (cwd : Location) (path : Path) (r : BootRecord ρ) : Prop :=
  r.result.value =
      ((r.provider.load r.before).value.mapError .unavailable).map
        (fun x => { settings := some x }) ∧
    r.result.state.tree.isThere cwd path = false

end BootRecord

theorem boots_settled {xs : List (Startup ρ)} (spared : ∀ x ∈ xs, x.Spares cwd path)
    (missing : w.tree.isThere cwd path = false) :
    ∀ r ∈ boots cwd path xs w, r.Settled cwd path := by
  induction xs generalizing w with
  | nil => simp [boots]
  | cons x rest ih =>
      obtain ⟨spares, spared⟩ := List.forall_mem_cons.1 spared
      have missing' : (x.meanwhile w).tree.isThere cwd path = false :=
        (spares.meanwhile w).isThere ▸ missing
      have settled := boot_absent missing' spares.provider
      exact List.forall_mem_cons.2 ⟨settled, ih spared settled.2⟩

/-- Boots that keep a store until one of them takes its config over. -/
inductive TakenOverOnce (cwd : Location) (path : Path) (bs : Bytes) :
    List (BootRecord ρ) → Prop where
  | nil : TakenOverOnce cwd path bs []
  | kept {r rs} (kept : r.Kept cwd path bs) (later : TakenOverOnce cwd path bs rs) :
      TakenOverOnce cwd path bs (r :: rs)
  | tookOver {r rs} (first : r.TookOver cwd path bs) (later : ∀ r ∈ rs, r.Settled cwd path) :
      TakenOverOnce cwd path bs (r :: rs)

theorem boots_takenOverOnce {w : World ρ} (stored : w.tree.read cwd path = .ok bs)
    {xs : List (Startup ρ)} (spared : ∀ x ∈ xs, x.Spares cwd path) :
    TakenOverOnce cwd path bs (boots cwd path xs w) := by
  induction xs generalizing w with
  | nil => exact .nil
  | cons x rest ih =>
      obtain ⟨spares, spared⟩ := List.forall_mem_cons.1 spared
      have stored' := (spares.meanwhile w).read stored
      have ends := boot_stored stored' spares.provider
      cases given : offered path bs x.provider (x.meanwhile w) with
      | error e =>
          rw [given] at ends
          exact .kept ⟨⟨e, given, ends.1⟩, ends.2⟩ (ih ends.2 spared)
      | ok o =>
          rw [given] at ends
          obtain ⟨c, config, made⟩ := config_offered given
          have first : (BootRecord.mk x.provider (x.meanwhile w) _).TookOver cwd path bs :=
            ⟨⟨o, c, given, ends.1, config, made⟩, ends.2⟩
          exact .tookOver first (boots_settled spared ends.2)

def homeBytes : Bytes :=
  Text.Utf8.encode "networks: [{ssid: HomeNet}]\n"

def homePath : Path :=
  ⟨.slash, ["w", "store"]⟩

def homeWorld : World Unit :=
  ⟨⟨[(["w"], .directory), (["w", "store"], .file homeBytes)]⟩, ()⟩

def reluctant : List (Startup Unit) :=
  [⟨id, ⟨fun _ => Action.fail (.source "no device")⟩⟩, ⟨id, ⟨fun _ => pure none⟩⟩,
    ⟨id, ⟨fun _ => pure none⟩⟩]

theorem takenOverOnce_reluctant :
    homeWorld.tree.read ["w"] homePath = .ok homeBytes ∧
      (∀ x ∈ reluctant, x.Spares ["w"] homePath) ∧
      TakenOverOnce ["w"] homePath homeBytes (boots ["w"] homePath reluctant homeWorld) := by
  have stored : homeWorld.tree.read ["w"] homePath = .ok homeBytes := by rfl
  have spared : ∀ x ∈ reluctant, x.Spares ["w"] homePath := by
    intro x mem
    have cases : x = reluctant[0] ∨ x = reluctant[1] ∨ x = reluctant[2] := by
      simpa [reluctant] using mem
    rcases cases with rfl | rfl | rfl
    all_goals exact ⟨fun _ _ => Iff.rfl, fun _ _ _ => Iff.rfl⟩
  exact ⟨stored, spared, boots_takenOverOnce stored spared⟩

end Handover
