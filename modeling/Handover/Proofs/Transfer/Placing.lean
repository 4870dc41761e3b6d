import Handover.Proofs.Files.Tree
import Handover.Proofs.Transfer.Reading
import Handover.Transfer.File

namespace Handover

namespace TransferFile

theorem change_apply (f : FileTree → Except FileFault FileTree) (t : FileTree) :
    change f t =
      match f t with
      | .ok u => ⟨.ok (), u, []⟩
      | .error e => ⟨.error (.file e), t, []⟩ :=
  rfl

theorem unlink_of_write_error {t : FileTree} {cwd : Location} {p : Path} {bs : Bytes}
    {e : FileFault} (h : t.write cwd p bs = .error e) (u : FileTree) : t.unlink cwd p ≠ .ok u := by
  rw [Ne, FileTree.unlink_eq_ok_iff]
  rintro ⟨l, old, hl, hf, -⟩
  have written := FileTree.write_eq_ok_iff (u := t.put l (.file bs)) |>.2 ⟨l, hl, by simp [hf], rfl⟩
  rw [h] at written
  cases written

theorem state_discard {t : FileTree} {cwd : Location} {p : Path}
    (h : ∀ u, t.unlink cwd p ≠ .ok u) : (discard cwd p t).state = t := by
  rw [discard, change_apply]
  cases hu : t.unlink cwd p with
  | ok u => exact absurd hu (h u)
  | error e => cases e <;> rfl

theorem place_moved {t u v : FileTree} {cwd : Location} {tmp p : Path} {content : Bytes}
    (hw : t.write cwd tmp content = .ok u) (hr : u.rename cwd tmp p = .ok v) :
    place cwd tmp p content t = ⟨.ok (), v, []⟩ := by
  simp [place, Action.bind_apply, Action.attempt, change_apply, hw, hr, Action.pure_apply]

theorem place_withdrawn {t u w : FileTree} {cwd : Location} {tmp p : Path} {content : Bytes}
    {e : FileFault} (hw : t.write cwd tmp content = .ok u) (hr : u.rename cwd tmp p = .error e)
    (hd : u.unlink cwd tmp = .ok w) : place cwd tmp p content t = ⟨.error (.file e), w, []⟩ := by
  simp [place, Action.bind_apply, Action.attempt, change_apply, discard, hw, hr, hd, Action.fail]

theorem place_unwritten {t : FileTree} {cwd : Location} {tmp p : Path} {content : Bytes}
    {e : FileFault} (hw : t.write cwd tmp content = .error e) :
    ∃ f, (place cwd tmp p content t).value = .error f ∧
      (place cwd tmp p content t).state = t := by
  have kept := state_discard (unlink_of_write_error hw)
  simp only [place, Action.bind_apply, Action.attempt, change_apply, hw]
  cases hd : discard cwd tmp t with
  | mk value state journal =>
      rw [hd] at kept
      subst kept
      cases value with
      | ok _ => exact ⟨.file e, rfl, rfl⟩
      | error f => exact ⟨f, rfl, rfl⟩

structure Staged (t : FileTree) (cwd : Location) (p : Path) (config : Option ConfigSnapshot)
    (settings : SettingsSnapshot) (tmp : Path) (u : FileTree) : Prop where
  parent : (t.ensureDirectory cwd p.parent).2 = .ok ()
  name : temporary p = .ok tmp
  written : ∃ content, encoded config settings = .ok content ∧
    (t.ensureDirectory cwd p.parent).1.write cwd tmp content = .ok u

inductive Ends (t : FileTree) (cwd : Location) (p : Path) (config : Option ConfigSnapshot)
    (settings : SettingsSnapshot) : Except Fault Unit → FileTree → Prop where
  | moved {tmp : Path} {u v : FileTree} (staged : Staged t cwd p config settings tmp u)
      (renamed : u.rename cwd tmp p = .ok v) : Ends t cwd p config settings (.ok ()) v
  | withdrawn {tmp : Path} {u w : FileTree} {e : FileFault}
      (staged : Staged t cwd p config settings tmp u) (refused : u.rename cwd tmp p = .error e)
      (unlinked : u.unlink cwd tmp = .ok w) : Ends t cwd p config settings (.error (.file e)) w
  | unstaged {e : Fault} (none : ∀ tmp u, ¬ Staged t cwd p config settings tmp u) :
      Ends t cwd p config settings (.error e) (t.ensureDirectory cwd p.parent).1

theorem locate_temporary_ne {t : FileTree} {cwd : Location} {p tmp : Path} {k m : Location}
    (name : temporary p = .ok tmp) (hk : t.locate cwd tmp = .ok k) (hm : t.locate cwd p = .ok m) :
    k ≠ m := by
  obtain ⟨root, parts⟩ := p
  cases hlast : parts.getLast? with
  | none => simp [temporary, Path.name?, hlast] at name
  | some last =>
      obtain ⟨above, rfl⟩ := List.getLast?_eq_some_iff.1 hlast
      simp only [temporary, Path.name?, hlast, Path.withName, List.dropLast_concat,
        Except.ok.injEq] at name
      subst name
      obtain ⟨d, hd, -, rfl⟩ := FileTree.walk_concat.1 hk
      obtain ⟨d', hd', -, rfl⟩ := FileTree.walk_concat.1 hm
      cases hd.symm.trans hd'
      have longer : (last ++ ".tmp").length = last.length + 4 := by
        rw [String.length_append]
        rfl
      have down : last ++ ".tmp" ≠ ".." := by
        intro h
        rw [h] at longer
        have : "..".length = 2 := rfl
        omega
      rw [if_neg down]
      split
      · intro h
        have lengths := congrArg List.length h
        simp at lengths
        omega
      · intro h
        simp at h

theorem Staged.unique {t u u' : FileTree} {cwd : Location} {p tmp tmp' : Path}
    {config : Option ConfigSnapshot} {settings : SettingsSnapshot}
    (h : Staged t cwd p config settings tmp u) (h' : Staged t cwd p config settings tmp' u') :
    tmp = tmp' ∧ u = u' := by
  obtain ⟨content, hc, hw⟩ := h.written
  obtain ⟨content', hc', hw'⟩ := h'.written
  cases h.name.symm.trans h'.name
  cases hc.symm.trans hc'
  cases hw.symm.trans hw'
  exact ⟨rfl, rfl⟩

theorem Staged.stands {t u : FileTree} {cwd : Location} {p tmp : Path}
    {config : Option ConfigSnapshot} {settings : SettingsSnapshot}
    (h : Staged t cwd p config settings tmp u) :
    ∃ k content, encoded config settings = .ok content ∧
      (t.ensureDirectory cwd p.parent).1.SameDirectories u ∧ u.locate cwd tmp = .ok k ∧
      ∀ l, u.find? l =
        if l = k then some (.file content) else (t.ensureDirectory cwd p.parent).1.find? l := by
  obtain ⟨content, hc, hw⟩ := h.written
  obtain ⟨k, hk, hd, rfl⟩ := FileTree.write_eq_ok_iff.1 hw
  have same := FileTree.sameDirectories_put content hd
  exact ⟨k, content, hc, same, same.locate.1 hk,
    fun l => FileTree.find?_put_of_ne_nil _ (FileTree.ne_nil_of_find? hd) l _⟩

theorem Staged.locates {t u : FileTree} {cwd : Location} {p tmp path : Path}
    {config : Option ConfigSnapshot} {settings : SettingsSnapshot} {bs : Bytes}
    (h : Staged t cwd p config settings tmp u) (stored : t.read cwd path = .ok bs) :
    ∃ l, u.locate cwd path = .ok l ∧
      (t.ensureDirectory cwd p.parent).1.find? l = some (.file bs) := by
  obtain ⟨-, -, -, same, -, -⟩ := h.stands
  have kept := (FileTree.deepens_ensureDirectory t cwd p.parent).grows.read stored
  obtain ⟨l, hl, file⟩ := FileTree.read_eq_ok_iff.1 kept
  exact ⟨l, same.locate.1 hl, file⟩

theorem Staged.unlink {t u : FileTree} {cwd : Location} {p tmp : Path}
    {config : Option ConfigSnapshot} {settings : SettingsSnapshot}
    (h : Staged t cwd p config settings tmp u) : ∃ w, u.unlink cwd tmp = .ok w := by
  obtain ⟨k, content, -, -, hk, found⟩ := h.stands
  have file : u.find? k = some (.file content) := by rw [found, if_pos rfl]
  exact ⟨_, FileTree.unlink_eq_ok_iff.2 ⟨k, content, hk, file, rfl⟩⟩

theorem Staged.moved {t u v : FileTree} {cwd : Location} {p tmp : Path}
    {config : Option ConfigSnapshot} {settings : SettingsSnapshot}
    (h : Staged t cwd p config settings tmp u) (renamed : u.rename cwd tmp p = .ok v) :
    ∃ k m content, encoded config settings = .ok content ∧ k ≠ m ∧ u.SameDirectories v ∧
      u.locate cwd tmp = .ok k ∧ u.locate cwd p = .ok m ∧
      ∀ l, v.find? l = if l = m then some (.file content) else
        if l = k then none else (t.ensureDirectory cwd p.parent).1.find? l := by
  obtain ⟨k, content, hc, -, hk, found⟩ := h.stands
  obtain ⟨k', m, e, hk', hm, he, -, hfile, rfl⟩ := FileTree.rename_eq_ok_iff.1 renamed
  cases hk.symm.trans hk'
  have stands : u.find? k = some (.file content) := by rw [found, if_pos rfl]
  cases stands.symm.trans he
  have apart : k ≠ m := locate_temporary_ne h.name hk hm
  have tmpFile : u.find? k ≠ some .directory := by simp [stands]
  have gone := FileTree.find?_remove_of_ne_nil u (FileTree.ne_nil_of_find? tmpFile)
  have free : (u.remove k).find? m ≠ some .directory := by
    rw [gone, if_neg (Ne.symm apart)]
    exact hfile
  have same := (FileTree.sameDirectories_remove tmpFile).trans
    (FileTree.sameDirectories_put content free)
  refine ⟨k, m, content, hc, apart, same, hk, hm, fun l => ?_⟩
  rw [FileTree.find?_put_of_ne_nil _ (FileTree.ne_nil_of_find? hfile), gone]
  by_cases under : l = k
  · simp only [under, if_true]
  · simp only [under, if_false, found]

theorem write_ensured {t u : FileTree} {cwd : Location} {p : Path} (config : Option ConfigSnapshot)
    (settings : SettingsSnapshot) (h : t.ensureDirectory cwd p.parent = (u, .ok ())) :
    (∃ content tmp, encoded config settings = .ok content ∧ temporary p = .ok tmp ∧
      (write cwd p config settings t).value = (place cwd tmp p content u).value ∧
      (write cwd p config settings t).state = (place cwd tmp p content u).state) ∨
    ((∀ content tmp, encoded config settings = .ok content → temporary p ≠ .ok tmp) ∧
      ∃ e, (write cwd p config settings t).value = .error e ∧
        (write cwd p config settings t).state = u) := by
  have made : ensureParent cwd p t = ⟨.ok (), u, []⟩ := by
    rw [ensureParent, h]
  simp only [write, Action.bind_apply, made, Action.lift]
  cases hc : encoded config settings with
  | error e => exact .inr ⟨nofun, e, rfl, rfl⟩
  | ok content =>
      cases hn : temporary p with
      | error e => exact .inr ⟨nofun, e, rfl, rfl⟩
      | ok tmp =>
          refine .inl ⟨content, tmp, rfl, rfl, ?_⟩
          dsimp only
          rcases place cwd tmp p content u with ⟨_ | _, v, journal⟩
          · exact ⟨rfl, rfl⟩
          · exact ⟨rfl, rfl⟩

theorem write_ends (t : FileTree) (cwd : Location) (p : Path) (config : Option ConfigSnapshot)
    (settings : SettingsSnapshot) :
    Ends t cwd p config settings (write cwd p config settings t).value
      (write cwd p config settings t).state := by
  cases hp : t.ensureDirectory cwd p.parent with
  | mk u made =>
      have tree : (t.ensureDirectory cwd p.parent).1 = u := by rw [hp]
      cases made with
      | error e =>
          have failed : write cwd p config settings t = ⟨.error (.file e), u, []⟩ := by
            rw [write, Action.bind_apply, ensureParent, hp]
          rw [failed, ← tree]
          refine .unstaged fun tmp v staged => ?_
          have parent := staged.parent
          rw [hp] at parent
          cases parent
      | ok _ =>
          obtain ⟨content, tmp, hc, hn, value, state⟩ | ⟨unready, e, value, state⟩ :=
            write_ensured config settings hp
          · rw [value, state]
            cases hw : u.write cwd tmp content with
            | error e =>
                obtain ⟨f, value, state⟩ := place_unwritten (p := p) hw
                rw [value, state, ← tree]
                refine .unstaged fun tmp' v staged => ?_
                obtain ⟨content', hc', hw'⟩ := staged.written
                cases hn.symm.trans staged.name
                cases hc.symm.trans hc'
                rw [tree, hw] at hw'
                cases hw'
            | ok v =>
                have staged : Staged t cwd p config settings tmp v :=
                  ⟨by rw [hp], hn, content, hc, tree ▸ hw⟩
                cases hr : v.rename cwd tmp p with
                | ok w =>
                    rw [place_moved hw hr]
                    exact .moved staged hr
                | error e =>
                    obtain ⟨w, hd⟩ := staged.unlink
                    rw [place_withdrawn hw hr hd]
                    exact .withdrawn staged hr hd
          · rw [value, state, ← tree]
            refine .unstaged fun tmp v staged => ?_
            obtain ⟨content, hc, -⟩ := staged.written
            exact unready content tmp hc staged.name

theorem read_of_content {t : FileTree} {cwd : Location} {p : Path} {bs : Bytes}
    (stored : t.read cwd p = .ok bs) : read t cwd p = refused (Framing.decode bs) := by
  rw [read, content, stored]

theorem readPayloads_of_content {t : FileTree} {cwd : Location} {p : Path} {bs : Bytes}
    (stored : t.read cwd p = .ok bs) : readPayloads t cwd p = refused (Framing.payloads bs) := by
  rw [readPayloads, content, stored]

theorem refused_eq_error_iff {α : Type} {x : Except Malformed α} {f : Fault} :
    refused x = .error f ↔ ∃ e, x = .error e ∧ f = .malformed e := by
  cases x with
  | ok a => simp [refused]
  | error e => simp [refused, eq_comm]

theorem read_eq_ok_iff {t : FileTree} {cwd : Location} {p : Path}
    {r : Option ConfigSnapshot × SettingsSnapshot} :
    read t cwd p = .ok r ↔ ∃ bs, t.read cwd p = .ok bs ∧ Framing.decode bs = .ok r := by
  rw [read, content]
  cases t.read cwd p with
  | error _ => simp
  | ok bs => cases h : Framing.decode bs <;> simp [refused, h]

theorem encoded_eq_ok_iff {config : Option ConfigSnapshot} {settings : SettingsSnapshot}
    {bs : Bytes} : encoded config settings = .ok bs ↔ Framing.encode config settings = .ok bs := by
  rw [encoded]
  cases Framing.encode config settings with
  | ok bs => simp
  | error e => cases e <;> simp

end TransferFile

def Fault.OfBytes : Fault → Prop
  | .malformed e => e.OfBytes
  | _ => False

end Handover
