import Handover.Proofs.Action
import Handover.Proofs.Transfer.Placing

namespace Handover

namespace Action

variable {σ ε δ α β : Type} {P Q : ε → Prop}

def FailsOnly (P : ε → Prop) (x : Action σ ε α) : Prop :=
  ∀ s e, (x s).value = .error e → P e

theorem FailsOnly.mono {x : Action σ ε α} (hx : FailsOnly P x) (weaker : ∀ e, P e → Q e) :
    FailsOnly Q x :=
  fun s e failed => weaker e (hx s e failed)

theorem failsOnly_pure (a : α) : FailsOnly P (pure a : Action σ ε α) := by
  rintro s e ⟨⟩

theorem failsOnly_fail {e : ε} (h : P e) : FailsOnly P (fail e : Action σ ε α) := by
  rintro s _ ⟨⟩
  exact h

theorem failsOnly_log (level : Level) (text : String) :
    FailsOnly P (log level text : Action σ ε Unit) := by
  rintro s e ⟨⟩

theorem failsOnly_lift {x : Except ε α} (h : ∀ e, x = .error e → P e) :
    FailsOnly P (lift x : Action σ ε α) :=
  fun _ e failed => h e failed

theorem FailsOnly.bind {x : Action σ ε α} {f : α → Action σ ε β} (hx : FailsOnly P x)
    (hf : ∀ a, FailsOnly P (f a)) : FailsOnly P (x >>= f) := by
  intro s e failed
  cases value : (x s).value with
  | error e' =>
      rw [(bind_of_error value f).1] at failed
      cases failed
      exact hx s e value
  | ok a =>
      rw [(bind_of_ok value f).1] at failed
      exact hf a _ e failed

theorem FailsOnly.attempt_bind {x : Action σ δ α} {R : δ → Prop} {f : Except δ α → Action σ ε β}
    (hx : FailsOnly R x) (hok : ∀ a, FailsOnly P (f (.ok a)))
    (herror : ∀ e, R e → FailsOnly P (f (.error e))) : FailsOnly P (attempt x >>= f) := by
  intro s e failed
  rw [value_attempt_bind] at failed
  cases hv : (x s).value with
  | ok a =>
      rw [hv] at failed
      exact hok a _ e failed
  | error e' =>
      rw [hv] at failed
      exact herror e' (hx s e' hv) _ e failed

end Action

theorem FileTree.rename_of_write {t u v : FileTree} {cwd : Location} {p q : Path} {bs : Bytes}
    (written : t.write cwd p bs = .ok u) (renamed : u.rename cwd p q = .ok v) (content : Bytes) :
    ∃ u' v', t.write cwd p content = .ok u' ∧ u'.rename cwd p q = .ok v' := by
  obtain ⟨k, hk, free, rfl⟩ := write_eq_ok_iff.1 written
  obtain ⟨-, m, -, -, hm, -, down, target, -⟩ := rename_eq_ok_iff.1 renamed
  have before := sameDirectories_put bs free
  have after := sameDirectories_put content free
  have stands : (t.put k (.file content)).find? k = some (.file content) := by
    rw [find?_put_of_ne_nil _ (ne_nil_of_find? free), if_pos rfl]
  have target' : (t.put k (.file content)).find? m ≠ some .directory :=
    fun directory => target ((before m).1 ((after m).2 directory))
  exact ⟨_, _, write_eq_ok_iff.2 ⟨k, hk, free, rfl⟩, rename_eq_ok_iff.2
    ⟨k, m, _, after.locate.1 hk, after.locate.1 (before.locate.2 hm), stands, down, target', rfl⟩⟩

namespace TransferFile

open Handover.Action (FailsOnly)

def OfFiles (e : Fault) : Prop :=
  ∃ f, e = .file f

theorem failsOnly_change (f : FileTree → Except FileFault FileTree) :
    FailsOnly OfFiles (change f) := by
  intro t e failed
  rw [change_apply] at failed
  cases made : f t with
  | ok u =>
      rw [made] at failed
      cases failed
  | error f =>
      rw [made] at failed
      cases failed
      exact ⟨f, rfl⟩

theorem failsOnly_ensureParent (cwd : Location) (p : Path) :
    FailsOnly OfFiles (ensureParent cwd p) := by
  intro t e failed
  rw [ensureParent] at failed
  split at failed
  · cases failed
  · next f _ =>
      cases failed
      exact ⟨f, rfl⟩

theorem failsOnly_place (cwd : Location) (tmp p : Path) (content : Bytes) :
    FailsOnly OfFiles (place cwd tmp p content) := by
  have moves : FailsOnly OfFiles (do
      change fun t => t.write cwd tmp content
      change fun t => t.rename cwd tmp p) :=
    (failsOnly_change _).bind fun _ => failsOnly_change _
  refine moves.attempt_bind (fun _ => Action.failsOnly_pure ()) fun e ofFiles => ?_
  exact (failsOnly_change _).bind fun _ => Action.failsOnly_fail ofFiles

theorem failsOnly_write {P : Fault → Prop} (cwd : Location) {p : Path}
    {config : Option ConfigSnapshot} {settings : SettingsSnapshot} (files : ∀ e, OfFiles e → P e)
    (unencoded : ∀ e, encoded config settings = .error e → P e)
    (nameless : ∀ e, temporary p = .error e → P e) :
    FailsOnly P (write cwd p config settings) := by
  refine ((failsOnly_ensureParent cwd p).mono files).bind fun _ => ?_
  refine (Action.failsOnly_lift unencoded).bind fun content => ?_
  refine (Action.failsOnly_lift nameless).bind fun tmp => ?_
  exact ((failsOnly_place cwd tmp p content).mono files).bind fun _ => Action.failsOnly_log _ _

structure Ready (p : Path) (config : Option ConfigSnapshot) (settings : SettingsSnapshot) : Prop where
  fits : ∃ content, encoded config settings = .ok content
  named : ∃ tmp, temporary p = .ok tmp

variable {t u : FileTree} {cwd : Location} {p : Path} {config : Option ConfigSnapshot}
  {settings : SettingsSnapshot}

/-- Why snapshots are written to a path on no files at all: they do not fit, or it has no name. -/
inductive Unfit : Fault → Prop where
  | width : Unfit .width
  | encoding (e : EncodingFault) : Unfit (.encoding e)
  | serialization (e : EncodingFault) : Unfit (.serialization e)
  | namelessPath : Unfit .namelessPath

theorem Unfit.not_ofFiles {e : Fault} (h : Unfit e) : ¬ OfFiles e := by
  rintro ⟨f, rfl⟩
  cases h

theorem unfit_of_encoded {e : Fault} (h : encoded config settings = .error e) : Unfit e := by
  rw [encoded] at h
  split at h
  · cases h
  · cases h
    exact .encoding _
  · cases h
    exact .serialization _
  · cases h
    exact .width

theorem unfit_of_temporary {e : Fault} (h : temporary p = .error e) : Unfit e := by
  rw [temporary] at h
  split at h
  · cases h
  · cases h
    exact .namelessPath

theorem Ready.ofFiles (ready : Ready p config settings) {e : Fault}
    (failed : (write cwd p config settings t).value = .error e) : OfFiles e := by
  obtain ⟨⟨content, fits⟩, tmp, named⟩ := ready
  refine failsOnly_write cwd (fun _ => id) ?_ ?_ t e failed
  · intro e unencoded
    cases fits.symm.trans unencoded
  · intro e nameless
    cases named.symm.trans nameless

theorem write_unready (made : t.ensureDirectory cwd p.parent = (u, .ok ()))
    (unready : ¬ Ready p config settings) :
    ∃ e, (write cwd p config settings t).value = .error e ∧ Unfit e := by
  have parent : ensureParent cwd p t = ⟨.ok (), u, []⟩ := by
    rw [ensureParent, made]
  rw [write, Action.bind_of_eq parent]
  cases fits : encoded config settings with
  | error e => exact ⟨e, rfl, unfit_of_encoded fits⟩
  | ok content =>
      cases named : temporary p with
      | error e => exact ⟨e, rfl, unfit_of_temporary named⟩
      | ok tmp => exact absurd ⟨⟨content, fits⟩, tmp, named⟩ unready

theorem write_ofFiles_iff :
    (∀ e, (write cwd p config settings t).value = .error e → OfFiles e) ↔
      ((t.ensureDirectory cwd p.parent).2 = .ok () → Ready p config settings) := by
  cases ensured : t.ensureDirectory cwd p.parent with
  | mk u made =>
      cases made with
      | error e =>
          refine iff_of_true (fun f failed => ?_) (by rintro ⟨⟩)
          rw [write, Action.bind_apply, ensureParent, ensured] at failed
          cases failed
          exact ⟨e, rfl⟩
      | ok _ =>
          constructor
          · intro ofFiles _
            refine Classical.byContradiction fun unready => ?_
            obtain ⟨e, failed, unfit⟩ := write_unready ensured unready
            exact unfit.not_ofFiles (ofFiles e failed)
          · exact fun ready e => (ready rfl).ofFiles

def Writable (t : FileTree) (cwd : Location) (p : Path) : Prop :=
  ∃ config settings, (write cwd p config settings t).value = .ok ()

theorem exists_staged_of_write (written : (write cwd p config settings t).value = .ok ()) :
    ∃ tmp u v, Staged t cwd p config settings tmp u ∧ u.rename cwd tmp p = .ok v := by
  have ends := write_ends t cwd p config settings
  rw [written] at ends
  generalize (write cwd p config settings t).state = v at ends
  cases ends with
  | moved staged renamed => exact ⟨_, _, v, staged, renamed⟩

theorem write_of_staged {tmp : Path} {v : FileTree} (staged : Staged t cwd p config settings tmp u)
    (renamed : u.rename cwd tmp p = .ok v) : (write cwd p config settings t).value = .ok () := by
  have ends := write_ends t cwd p config settings
  generalize (write cwd p config settings t).value = value at ends ⊢
  generalize (write cwd p config settings t).state = w at ends
  cases ends with
  | moved => rfl
  | withdrawn staged' refused =>
      obtain ⟨rfl, rfl⟩ := staged.unique staged'
      cases renamed.symm.trans refused
  | unstaged none => exact absurd staged (none _ _)

namespace Writable

theorem parent (h : Writable t cwd p) : (t.ensureDirectory cwd p.parent).2 = .ok () := by
  obtain ⟨config, settings, written⟩ := h
  obtain ⟨tmp, u, v, staged, -⟩ := exists_staged_of_write written
  exact staged.parent

theorem write_iff (h : Writable t cwd p) :
    (write cwd p config settings t).value = .ok () ↔
      ∃ content, encoded config settings = .ok content := by
  constructor
  · intro written
    obtain ⟨tmp, u, v, staged, -⟩ := exists_staged_of_write written
    obtain ⟨content, fits, -⟩ := staged.written
    exact ⟨content, fits⟩
  · rintro ⟨content, fits⟩
    obtain ⟨_, _, written⟩ := h
    obtain ⟨tmp, u, v, staged, renamed⟩ := exists_staged_of_write written
    obtain ⟨_, -, stored⟩ := staged.written
    obtain ⟨u', v', stored', renamed'⟩ := FileTree.rename_of_write stored renamed content
    exact write_of_staged ⟨staged.parent, staged.name, content, fits, stored'⟩ renamed'

theorem not_ofFiles (h : Writable t cwd p) {e : Fault}
    (failed : (write cwd p config settings t).value = .error e) : ¬ OfFiles e := by
  have unready : ¬ Ready p config settings := by
    intro ready
    cases (h.write_iff.2 ready.fits).symm.trans failed
  obtain ⟨e, failed', unfit⟩ := write_unready (Prod.ext rfl h.parent) unready
  cases failed.symm.trans failed'
  exact unfit.not_ofFiles

end Writable

end TransferFile

end Handover
