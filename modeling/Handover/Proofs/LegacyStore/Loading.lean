import Handover.LegacyStore
import Handover.Proofs.Files.Tree

namespace Handover.LegacyStore

def fresh (path : Path) (t : FileTree) : StoreSite :=
  ⟨{ path := path }, t⟩

variable {t : FileTree} {cwd : Location} {path : Path} {bs : Bytes}

theorem parse_of_ofBytes {v : Value} (text : String) (h : Yaml.ofBytes bs = .ok v) :
    parse text bs = entries text v := by
  unfold parse
  rw [h]

theorem read_fresh (h : t.read cwd path = .ok bs) :
    read cwd (fresh path t) =
      match parse path.text bs with
      | .error e => ⟨.error e, fresh path t, []⟩
      | .ok es => ⟨.ok (some es), ⟨⟨path, some es, false⟩, t⟩, []⟩ := by
  have there : t.isThere cwd path = true := by
    obtain ⟨l, hl, hf⟩ := FileTree.read_eq_ok_iff.1 h
    exact FileTree.isThere_iff.2 ⟨l, _, hl, hf⟩
  cases hp : parse path.text bs with
  | error e => simp [read, fresh, there, h, hp]
  | ok es => simp [read, fresh, there, h, hp]

theorem loadConfig_fresh (h : t.read cwd path = .ok bs) :
    loadConfig cwd (fresh path t) =
      match parse path.text bs with
      | .error e => ⟨.error e, fresh path t, []⟩
      | .ok es =>
          match config es with
          | .error e => ⟨.error (.store path.text e), ⟨⟨path, some es, false⟩, t⟩, []⟩
          | .ok snapshot =>
              ⟨.ok (some snapshot), ⟨⟨path, some es, true⟩, t⟩,
                [.logged .debug ("Loaded legacy store " ++ path.text)]⟩ := by
  have hr := read_fresh h
  simp only [loadConfig, Action.bind_apply, Action.get, fresh] at hr ⊢
  simp only [Bool.false_eq_true, if_false, Action.bind_apply, hr]
  cases parse path.text bs with
  | error e => rfl
  | ok es =>
      cases hc : config es with
      | error e => simp [hc, Action.fail]
      | ok snapshot =>
          simp [hc, Action.bind_apply, Action.modify, Action.log, Action.pure_apply]

theorem ownSettings_read (es : List (Value × Value)) (taken : Bool) :
    ownSettings cwd ⟨⟨path, some es, taken⟩, t⟩ =
      ⟨settings path.text es, ⟨⟨path, some es, taken⟩, t⟩, []⟩ := by
  rfl

def committed (t : FileTree) (cwd : Location) (path : Path) : FileTree :=
  if t.isThere cwd path then
    match t.unlink cwd path with
    | .ok u => u
    | .error _ => t
  else t

theorem tree_commit (es : Option (List (Value × Value))) :
    (commit cwd ⟨⟨path, es, true⟩, t⟩).state.tree = committed t cwd path := by
  simp only [commit, committed, Bool.true_and]
  split
  · cases t.unlink cwd path <;> rfl
  · rfl

theorem find?_committed {l : Location} (hl : t.locate cwd path = .ok l)
    (file : t.find? l ≠ some .directory) :
    t.SameDirectories (committed t cwd path) ∧
      ∀ m, (committed t cwd path).find? m = if m = l then none else t.find? m := by
  have root := FileTree.ne_nil_of_find? file
  cases hf : t.find? l with
  | none =>
      have missing : t.isThere cwd path = false := by
        simp [FileTree.isThere, FileTree.stat, hl, hf]
      have same : committed t cwd path = t := by simp [committed, missing]
      rw [same]
      refine ⟨fun _ => Iff.rfl, fun m => ?_⟩
      split
      · next h => rw [h, hf]
      · rfl
  | some e =>
      cases e with
      | directory => exact absurd hf file
      | file bs =>
          have there : t.isThere cwd path = true := FileTree.isThere_iff.2 ⟨l, _, hl, hf⟩
          have unlinked := FileTree.unlink_eq_ok_iff.2 ⟨l, bs, hl, hf, rfl⟩
          have removed : committed t cwd path = t.remove l := by
            simp [committed, there, unlinked]
          rw [removed]
          exact ⟨FileTree.sameDirectories_remove file, FileTree.find?_remove_of_ne_nil t root⟩

end Handover.LegacyStore
