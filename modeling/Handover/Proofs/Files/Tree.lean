import Handover.Files.Tree

namespace Handover.FileTree

theorem find?_put_of_ne_nil (t : FileTree) {m : Location} (hm : m ≠ []) (l : Location) (e : Entry) :
    (t.put m e).find? l = if l = m then some e else t.find? l := by
  by_cases hl : l = []
  · subst hl
    rw [if_neg (Ne.symm hm)]
    rfl
  · exact find?_put t l m e hl

theorem find?_remove_of_ne_nil (t : FileTree) {m : Location} (hm : m ≠ []) (l : Location) :
    (t.remove m).find? l = if l = m then none else t.find? l := by
  by_cases hl : l = []
  · subst hl
    rw [if_neg (Ne.symm hm)]
    rfl
  · exact find?_remove t l m hl

theorem ne_nil_of_find? {t : FileTree} {l : Location} (h : t.find? l ≠ some .directory) :
    l ≠ [] := by
  rintro rfl
  exact h rfl

def Grows (t u : FileTree) : Prop :=
  ∀ l e, t.find? l = some e → u.find? l = some e

def SameDirectories (t u : FileTree) : Prop :=
  ∀ l, t.find? l = some .directory ↔ u.find? l = some .directory

def SamePlace (t : FileTree) (cwd : Location) (p q : Path) : Prop :=
  ∃ l, t.locate cwd p = .ok l ∧ t.locate cwd q = .ok l

theorem samePlace_iff {t : FileTree} {cwd : Location} {p q : Path} {l m : Location}
    (hl : t.locate cwd p = .ok l) (hm : t.locate cwd q = .ok m) : t.SamePlace cwd p q ↔ l = m := by
  simp [SamePlace, hl, hm, eq_comm]

theorem walk_of_directories {t u : FileTree}
    (h : ∀ l, t.find? l = some .directory → u.find? l = some .directory) (parts : List String)
    {l m : Location} (hw : t.walk l parts = .ok m) : u.walk l parts = .ok m := by
  induction parts generalizing l with
  | nil => exact hw
  | cons part rest ih =>
      cases hl : t.find? l with
      | none => simp [walk, hl] at hw
      | some e =>
          cases e with
          | file bs => simp [walk, hl] at hw
          | directory =>
              simp only [walk, hl] at hw
              simp only [walk, h l hl]
              exact ih hw

theorem walk_concat {t : FileTree} {parts : List String} {part : String} {l m : Location} :
    t.walk l (parts ++ [part]) = .ok m ↔
      ∃ d, t.walk l parts = .ok d ∧ t.find? d = some .directory ∧
        m = if part = ".." then d.dropLast else d ++ [part] := by
  induction parts generalizing l with
  | nil =>
      rcases h : t.find? l with _ | ⟨_ | _⟩ <;> simp [walk, h, eq_comm]
  | cons first rest ih =>
      rcases h : t.find? l with _ | ⟨_ | _⟩ <;> simp [walk, h, ih]

theorem Grows.locate {t u : FileTree} (h : t.Grows u) {cwd : Location} {p : Path} {l : Location}
    (hl : t.locate cwd p = .ok l) : u.locate cwd p = .ok l :=
  walk_of_directories (fun _ hd => h _ _ hd) _ hl

theorem SameDirectories.locate {t u : FileTree} (h : t.SameDirectories u) {cwd : Location}
    {p : Path} {l : Location} : t.locate cwd p = .ok l ↔ u.locate cwd p = .ok l :=
  ⟨walk_of_directories (fun m => (h m).1) _, walk_of_directories (fun m => (h m).2) _⟩

theorem SameDirectories.trans {t u v : FileTree} (h : t.SameDirectories u)
    (h' : u.SameDirectories v) : t.SameDirectories v :=
  fun l => (h l).trans (h' l)

theorem sameDirectories_put {t : FileTree} {l : Location} (bs : Bytes)
    (h : t.find? l ≠ some .directory) : t.SameDirectories (t.put l (.file bs)) := by
  intro m
  rw [find?_put_of_ne_nil t (ne_nil_of_find? h)]
  by_cases hm : m = l
  · subst hm
    simp [h]
  · rw [if_neg hm]

theorem sameDirectories_remove {t : FileTree} {l : Location} (h : t.find? l ≠ some .directory) :
    t.SameDirectories (t.remove l) := by
  intro m
  rw [find?_remove_of_ne_nil t (ne_nil_of_find? h)]
  by_cases hm : m = l
  · subst hm
    simp [h]
  · rw [if_neg hm]

def Rooted (t : FileTree) : Prop :=
  ∀ l part, t.find? (l ++ [part]) ≠ none → t.find? l = some .directory

/-- Making directories does not change where a path leads: it leads somewhere already, or does not
go up. -/
def Settled (t : FileTree) (cwd : Location) (p : Path) : Prop :=
  (∃ l, t.locate cwd p = .ok l) ∨ t.Rooted ∧ ".." ∉ p.parts

theorem Rooted.above {t : FileTree} (h : t.Rooted) (below : List String) (l : Location)
    (part : String) (found : t.find? (l ++ part :: below) ≠ none) : t.find? l = some .directory := by
  induction below generalizing l part with
  | nil => exact h l part found
  | cons next rest ih =>
      have inner : t.find? (l ++ [part]) = some .directory := by
        refine ih (l ++ [part]) next ?_
        rwa [List.append_assoc]
      exact h l part (by simp [inner])

theorem eq_of_walk {t : FileTree} {parts : List String} (down : ".." ∉ parts) {l m : Location}
    (hw : t.walk l parts = .ok m) : m = l ++ parts := by
  induction parts generalizing l with
  | nil =>
      cases hw
      exact (List.append_nil _).symm
  | cons part rest ih =>
      simp only [List.mem_cons, not_or] at down
      rcases hl : t.find? l with _ | ⟨_ | _⟩
      · simp [walk, hl] at hw
      · simp [walk, hl] at hw
      · simp only [walk, hl, Ne.symm down.1, if_false] at hw
        simpa using ih down.2 hw

theorem Rooted.walk {t : FileTree} (h : t.Rooted) {parts : List String} (down : ".." ∉ parts)
    {l : Location} (found : t.find? (l ++ parts) ≠ none) : t.walk l parts = .ok (l ++ parts) := by
  induction parts generalizing l with
  | nil => simp [FileTree.walk]
  | cons part rest ih =>
      simp only [List.mem_cons, not_or] at down
      have here := h.above rest l part found
      have further : t.walk (l ++ [part]) rest = .ok ((l ++ [part]) ++ rest) :=
        ih down.2 (by simpa using found)
      simp only [FileTree.walk, here, Ne.symm down.1, if_false]
      simpa using further

theorem Settled.locate {t u : FileTree} {cwd : Location} {p : Path} {m : Location}
    (h : t.Settled cwd p) (deeper : ∀ l, t.find? l = some .directory → u.find? l = some .directory)
    (hm : u.locate cwd p = .ok m) (found : t.find? m ≠ none) : t.locate cwd p = .ok m := by
  obtain ⟨l, hl⟩ | ⟨rooted, down⟩ := h
  · have same : u.locate cwd p = .ok l := walk_of_directories deeper _ hl
    cases hm.symm.trans same
    exact hl
  · cases eq_of_walk down hm
    exact rooted.walk down found

theorem stat_eq_ok_iff {t : FileTree} {cwd : Location} {p : Path} {e : Entry} :
    t.stat cwd p = .ok e ↔ ∃ l, t.locate cwd p = .ok l ∧ t.find? l = some e := by
  rw [stat]
  cases t.locate cwd p with
  | error _ => simp
  | ok l => cases h : t.find? l <;> simp [h]

theorem read_eq_ok_iff {t : FileTree} {cwd : Location} {p : Path} {bs : Bytes} :
    t.read cwd p = .ok bs ↔ ∃ l, t.locate cwd p = .ok l ∧ t.find? l = some (.file bs) := by
  rw [← stat_eq_ok_iff, read]
  cases t.stat cwd p with
  | error _ => simp
  | ok e => cases e <;> simp

theorem isThere_iff {t : FileTree} {cwd : Location} {p : Path} :
    t.isThere cwd p = true ↔ ∃ l e, t.locate cwd p = .ok l ∧ t.find? l = some e := by
  have h : t.isThere cwd p = true ↔ ∃ e, t.stat cwd p = .ok e := by
    rw [isThere]
    cases t.stat cwd p <;> simp
  rw [h]
  constructor
  · rintro ⟨e, he⟩
    obtain ⟨l, hl, hf⟩ := stat_eq_ok_iff.1 he
    exact ⟨l, e, hl, hf⟩
  · rintro ⟨l, e, hl, hf⟩
    exact ⟨e, stat_eq_ok_iff.2 ⟨l, hl, hf⟩⟩

theorem write_eq_ok_iff {t u : FileTree} {cwd : Location} {p : Path} {bs : Bytes} :
    t.write cwd p bs = .ok u ↔
      ∃ l, t.locate cwd p = .ok l ∧ t.find? l ≠ some .directory ∧ u = t.put l (.file bs) := by
  rw [write]
  cases t.locate cwd p with
  | error _ => simp
  | ok l =>
      rcases h : t.find? l with _ | ⟨_ | _⟩ <;> simp [h, eq_comm]

theorem unlink_eq_ok_iff {t u : FileTree} {cwd : Location} {p : Path} :
    t.unlink cwd p = .ok u ↔
      ∃ l bs, t.locate cwd p = .ok l ∧ t.find? l = some (.file bs) ∧ u = t.remove l := by
  rw [unlink]
  cases t.locate cwd p with
  | error _ => simp
  | ok l =>
      rcases h : t.find? l with _ | ⟨_ | _⟩ <;> simp [h, eq_comm]

theorem rename_eq_ok_iff {t u : FileTree} {cwd : Location} {p q : Path} :
    t.rename cwd p q = .ok u ↔
      ∃ l m e, t.locate cwd p = .ok l ∧ t.locate cwd q = .ok m ∧ t.find? l = some e ∧
        q.name? ≠ some ".." ∧ t.find? m ≠ some .directory ∧ u = (t.remove l).put m e := by
  rw [rename]
  cases t.locate cwd p with
  | error _ => simp
  | ok l =>
      cases t.locate cwd q with
      | error _ => simp
      | ok m =>
          cases hl : t.find? l with
          | none => simp [hl]
          | some e =>
              by_cases hq : q.name? = some ".."
              · simp [hl, hq]
              · rcases hm : t.find? m with _ | ⟨_ | _⟩ <;> simp [hl, hm, hq, eq_comm]

theorem Grows.read {t u : FileTree} (h : t.Grows u) {cwd : Location} {p : Path} {bs : Bytes}
    (hr : t.read cwd p = .ok bs) : u.read cwd p = .ok bs := by
  obtain ⟨l, hl, hf⟩ := read_eq_ok_iff.1 hr
  exact read_eq_ok_iff.2 ⟨l, h.locate hl, h _ _ hf⟩

theorem read_of_locate {t : FileTree} {cwd : Location} {p : Path} {l : Location}
    (hl : t.locate cwd p = .ok l) {bs : Bytes} :
    t.read cwd p = .ok bs ↔ t.find? l = some (.file bs) := by
  rw [read_eq_ok_iff, hl]
  simp

theorem sameDirectories_write {t u : FileTree} {cwd : Location} {p : Path} {bs : Bytes}
    (h : t.write cwd p bs = .ok u) : t.SameDirectories u := by
  obtain ⟨l, -, file, rfl⟩ := write_eq_ok_iff.1 h
  exact sameDirectories_put bs file

theorem sameDirectories_unlink {t u : FileTree} {cwd : Location} {p : Path}
    (h : t.unlink cwd p = .ok u) : t.SameDirectories u := by
  obtain ⟨l, bs, -, hf, rfl⟩ := unlink_eq_ok_iff.1 h
  exact sameDirectories_remove (by simp [hf])

theorem read_of_write {t u : FileTree} {cwd : Location} {p : Path} {bs : Bytes}
    (h : t.write cwd p bs = .ok u) : u.read cwd p = .ok bs := by
  have same := sameDirectories_write h
  obtain ⟨l, hl, file, rfl⟩ := write_eq_ok_iff.1 h
  rw [read_of_locate (same.locate.1 hl), find?_put_of_ne_nil t (ne_nil_of_find? file), if_pos rfl]

theorem unlink_of_read {t : FileTree} {cwd : Location} {p : Path} {bs : Bytes}
    (h : t.read cwd p = .ok bs) : ∃ u, t.unlink cwd p = .ok u := by
  obtain ⟨l, hl, hf⟩ := read_eq_ok_iff.1 h
  exact ⟨_, unlink_eq_ok_iff.2 ⟨l, bs, hl, hf, rfl⟩⟩

theorem read_of_unlink {t u : FileTree} {cwd : Location} {p : Path} (h : t.unlink cwd p = .ok u) :
    ∃ bs, t.read cwd p = .ok bs := by
  obtain ⟨l, bs, hl, hf, -⟩ := unlink_eq_ok_iff.1 h
  exact ⟨bs, read_eq_ok_iff.2 ⟨l, hl, hf⟩⟩

theorem isThere_of_unlink {t u : FileTree} {cwd : Location} {p : Path} (h : t.unlink cwd p = .ok u) :
    u.isThere cwd p = false := by
  have same := sameDirectories_unlink h
  obtain ⟨l, bs, hl, hf, rfl⟩ := unlink_eq_ok_iff.1 h
  rw [Bool.eq_false_iff]
  intro there
  obtain ⟨m, e, hm, he⟩ := isThere_iff.1 there
  cases hl.symm.trans (same.locate.2 hm)
  have file : t.find? l ≠ some .directory := by simp [hf]
  rw [find?_remove_of_ne_nil t (ne_nil_of_find? file), if_pos rfl] at he
  cases he

theorem isThere_of_read {t : FileTree} {cwd : Location} {p : Path} {bs : Bytes}
    (h : t.read cwd p = .ok bs) : t.isThere cwd p = true := by
  obtain ⟨l, hl, hf⟩ := read_eq_ok_iff.1 h
  exact isThere_iff.2 ⟨l, _, hl, hf⟩

/-- Nothing changes but that directories are added where nothing was. -/
def Deepens (t u : FileTree) : Prop :=
  ∀ l, u.find? l = t.find? l ∨ t.find? l = none ∧ u.find? l = some .directory

theorem deepens_refl (t : FileTree) : t.Deepens t :=
  fun _ => .inl rfl

theorem Deepens.grows {t u : FileTree} (h : t.Deepens u) : t.Grows u := by
  intro l e found
  obtain same | ⟨none, -⟩ := h l
  · rw [same, found]
  · cases none.symm.trans found

theorem Deepens.trans {t u v : FileTree} (h : t.Deepens u) (h' : u.Deepens v) : t.Deepens v := by
  intro l
  obtain same | ⟨none, made⟩ := h l
  · rw [← same]
    exact h' l
  · exact .inr ⟨none, h'.grows l .directory made⟩

theorem Deepens.file_iff {t u : FileTree} (h : t.Deepens u) {l : Location} {bs : Bytes} :
    t.find? l = some (.file bs) ↔ u.find? l = some (.file bs) := by
  obtain same | ⟨none, made⟩ := h l
  · rw [same]
  · simp [none, made]

theorem deepens_makeDirectory {t u : FileTree} {cwd : Location} {p : Path}
    (h : t.makeDirectory cwd p = .ok u) : t.Deepens u := by
  rw [makeDirectory] at h
  cases hl : t.locate cwd p with
  | error _ => simp [hl] at h
  | ok l =>
      cases hf : t.find? l with
      | some _ => simp [hl, hf] at h
      | none =>
          simp only [hl, hf] at h
          cases h
          intro m
          have root : l ≠ [] := ne_nil_of_find? (t := t) (by simp [hf])
          rw [find?_put_of_ne_nil t root]
          by_cases here : m = l
          · subst here
            exact .inr ⟨hf, if_pos rfl⟩
          · exact .inl (if_neg here)

theorem deepens_ensureOne {t u : FileTree} {cwd : Location} {p : Path}
    (h : t.ensureOne cwd p = .ok u) : t.Deepens u := by
  rw [ensureOne] at h
  split at h
  · next _ hmake =>
      cases h
      exact deepens_makeDirectory hmake
  · cases h
  · split at h
    · cases h
      exact deepens_refl t
    · cases h

theorem deepens_ensureParts (t : FileTree) (cwd : Location) (root : Root) (below : List String) :
    t.Deepens (t.ensureParts cwd root below).1 := by
  induction below generalizing t with
  | nil =>
      rw [ensureParts]
      split
      · next _ hone => exact deepens_ensureOne hone
      · exact deepens_refl t
  | cons last above ih =>
      rw [ensureParts]
      split
      · next _ hone => exact deepens_ensureOne hone
      · have deeper := ih t
        split
        · next _ _ habove =>
            rw [habove] at deeper
            exact deeper
        · next u habove =>
            rw [habove] at deeper
            split
            · next _ hone => exact deeper.trans (deepens_ensureOne hone)
            · exact deeper
      · exact deepens_refl t

theorem deepens_ensureDirectory (t : FileTree) (cwd : Location) (p : Path) :
    t.Deepens (t.ensureDirectory cwd p).1 :=
  deepens_ensureParts t cwd p.root p.parts.reverse

theorem ensureOne_of_stat {t : FileTree} {cwd : Location} {p : Path}
    (there : t.stat cwd p = .ok .directory) :
    t.ensureOne cwd p = .ok t := by
  obtain ⟨l, leads, found⟩ := stat_eq_ok_iff.1 there
  have made : t.makeDirectory cwd p = .error .exists := by
    simp only [makeDirectory, leads, found]
  simp only [ensureOne, made, isDirectory, there, if_true]

theorem ensureDirectory_of_stat {t : FileTree} {cwd : Location} {p : Path}
    (there : t.stat cwd p = .ok .directory) :
    t.ensureDirectory cwd p = (t, .ok ()) := by
  obtain ⟨root, parts⟩ := p
  have one := ensureOne_of_stat there
  rw [ensureDirectory]
  cases below : parts.reverse with
  | nil =>
      obtain rfl := List.reverse_eq_nil_iff.1 below
      simp only [ensureParts, one]
  | cons last above =>
      rw [← List.reverse_reverse parts, below] at one
      simp only [ensureParts, one]

theorem stat_of_root {t : FileTree} {cwd : Location} {p : Path} (absolute : p.isAbsolute = true)
    (empty : p.parts = []) : t.stat cwd p = .ok .directory := by
  have leads : t.locate cwd p = .ok [] := by rw [locate, if_pos absolute, empty, walk]
  exact stat_eq_ok_iff.2 ⟨[], leads, rfl⟩

theorem stat_parent {t : FileTree} {cwd : Location} {p : Path} {l : Location}
    (absolute : p.isAbsolute = true) (leads : t.locate cwd p = .ok l) :
    t.stat cwd p.parent = .ok .directory := by
  by_cases empty : p.parts = []
  · have same : p.parent.parts = [] := by rw [Path.parent, empty, List.dropLast_nil]
    exact stat_of_root absolute same
  · rw [locate, ← List.dropLast_concat_getLast empty] at leads
    obtain ⟨d, above, directory, -⟩ := walk_concat.1 leads
    exact stat_eq_ok_iff.2 ⟨d, above, directory⟩

theorem find?_of_not_isThere {t : FileTree} {cwd : Location} {p : Path} {l : Location}
    (missing : t.isThere cwd p = false) (leads : t.locate cwd p = .ok l) : t.find? l = none := by
  cases found : t.find? l with
  | none => rfl
  | some e =>
      have there := isThere_iff.2 ⟨l, e, leads, found⟩
      rw [missing] at there
      cases there

end Handover.FileTree
