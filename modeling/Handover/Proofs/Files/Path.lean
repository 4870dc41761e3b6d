import Handover.Files.Host
import Handover.Proofs.Files.Tree

namespace Handover

namespace Path

theorem splitSlash_ne_nil (cs : List Char) : splitSlash cs ≠ [] := by
  cases cs with
  | nil => simp [splitSlash]
  | cons c rest =>
      rw [splitSlash]
      split
      · simp
      · split <;> simp

theorem splitSlash_slash (rest : List Char) : splitSlash ('/' :: rest) = [] :: splitSlash rest := by
  rw [splitSlash]
  cases split : splitSlash rest with
  | nil => exact absurd split (splitSlash_ne_nil rest)
  | cons part parts => rfl

theorem splitSlash_cons {c : Char} (h : c ≠ '/') {cs part : List Char} {parts : List (List Char)}
    (split : splitSlash cs = part :: parts) : splitSlash (c :: cs) = (c :: part) :: parts := by
  rw [splitSlash, split]
  simp [h]

theorem splitSlash_name {cs : List Char} (h : '/' ∉ cs) : splitSlash cs = [cs] := by
  induction cs with
  | nil => rfl
  | cons c rest ih =>
      rw [List.mem_cons, not_or] at h
      exact splitSlash_cons (Ne.symm h.1) (ih h.2)

theorem splitSlash_append {cs : List Char} (h : '/' ∉ cs) (rest : List Char) :
    splitSlash (cs ++ '/' :: rest) = cs :: splitSlash rest := by
  induction cs with
  | nil => exact splitSlash_slash rest
  | cons c cs ih =>
      rw [List.mem_cons, not_or] at h
      exact splitSlash_cons (Ne.symm h.1) (ih h.2)

theorem slash_notMem_of_mem_splitSlash {cs part : List Char} (h : part ∈ splitSlash cs) :
    '/' ∉ part := by
  induction cs generalizing part with
  | nil =>
      rw [splitSlash, List.mem_singleton] at h
      rw [h]
      exact List.not_mem_nil
  | cons c rest ih =>
      cases split : splitSlash rest with
      | nil => exact absurd split (splitSlash_ne_nil rest)
      | cons first parts =>
          rw [split] at ih
          by_cases slash : c = '/'
          · rw [slash, splitSlash_slash, split] at h
            rcases List.mem_cons.1 h with rfl | later
            · exact List.not_mem_nil
            · exact ih later
          · rw [splitSlash_cons slash split] at h
            rcases List.mem_cons.1 h with rfl | later
            · rw [List.mem_cons, not_or]
              exact ⟨Ne.symm slash, ih List.mem_cons_self⟩
            · exact ih (List.mem_cons_of_mem _ later)

def IsName (part : String) : Prop :=
  part ≠ "" ∧ part ≠ "." ∧ '/' ∉ part.toList

def Named (p : Path) : Prop :=
  ∀ part ∈ p.parts, IsName part

theorem named_ofText (s : String) : (ofText s).Named := by
  intro part mem
  simp only [ofText, List.mem_map, List.mem_filter, Bool.and_eq_true, Bool.not_eq_true',
    List.isEmpty_eq_false_iff, bne_iff_ne] at mem
  obtain ⟨cs, ⟨split, nonempty, point⟩, rfl⟩ := mem
  refine ⟨?_, ?_, ?_⟩
  · simpa using nonempty
  · intro same
    exact point (by simpa using congrArg String.toList same)
  · rw [String.toList_ofList]
    exact slash_notMem_of_mem_splitSlash split

theorem Named.join {p q : Path} (hp : p.Named) (hq : q.Named) : (p.join q).Named := by
  rw [Path.join]
  split
  · exact hq
  · intro part mem
    rcases List.mem_append.1 mem with mem | mem
    · exact hp part mem
    · exact hq part mem

theorem splitSlash_slashed {parts : List String} (named : ∀ part ∈ parts, IsName part)
    (nonempty : parts ≠ []) :
    splitSlash (slashed parts).toList = parts.map String.toList := by
  induction parts with
  | nil => exact absurd rfl nonempty
  | cons part rest ih =>
      obtain ⟨⟨-, -, name⟩, later⟩ := List.forall_mem_cons.1 named
      cases rest with
      | nil => exact splitSlash_name name
      | cons next rest =>
          have split : (slashed (part :: next :: rest)).toList =
              part.toList ++ '/' :: (slashed (next :: rest)).toList := by
            simp [slashed]
          rw [split, splitSlash_append name, ih later nofun]
          rfl

theorem head_slashed {parts : List String} (named : ∀ part ∈ parts, IsName part) :
    ∀ c ∈ (slashed parts).toList.head?, c ≠ '/' := by
  have head {part : String} (name : IsName part) (rest : List Char) :
      ∀ c ∈ (part.toList ++ rest).head?, c ≠ '/' := by
    obtain ⟨nonempty, -, apart⟩ := name
    cases split : part.toList with
    | nil => exact absurd (String.toList_inj.1 split) nonempty
    | cons c cs =>
        rintro _ ⟨⟩ rfl
        exact apart (by simp [split])
  cases parts with
  | nil => exact nofun
  | cons part rest =>
      have name : IsName part := named part List.mem_cons_self
      cases rest with
      | nil => simpa [slashed] using head name []
      | cons next rest => simpa [slashed] using head name ('/' :: (slashed (next :: rest)).toList)

theorem partsOf_slashed {parts : List String} (named : ∀ part ∈ parts, IsName part) :
    ((splitSlash (slashed parts).toList).filter fun p => !p.isEmpty && p != ['.']).map
      String.ofList = parts := by
  by_cases nonempty : parts = []
  · rw [nonempty]
    rfl
  · have kept : ∀ cs ∈ parts.map String.toList, (!cs.isEmpty && cs != ['.']) = true := by
      intro cs mem
      obtain ⟨part, under, rfl⟩ := List.mem_map.1 mem
      obtain ⟨nonempty, point, -⟩ := named part under
      have other : part.toList ≠ ['.'] := fun same => point (String.toList_inj.1 same)
      simpa using And.intro nonempty other
    rw [splitSlash_slashed named nonempty, List.filter_eq_self.2 kept]
    simp [Function.comp_def]

theorem rootOf_slash {cs : List Char} (head : ∀ c ∈ cs.head?, c ≠ '/') :
    rootOf ('/' :: cs) = .slash ∧ rootOf ('/' :: '/' :: cs) = .doubleSlash := by
  cases cs with
  | nil => exact ⟨rfl, rfl⟩
  | cons c rest =>
      have other : c ≠ '/' := head c rfl
      exact ⟨by simp [rootOf, other], by simp [rootOf, other]⟩

theorem ofText_text {p : Path} (named : p.Named) (absolute : p.isAbsolute = true) :
    ofText p.text = p := by
  obtain ⟨root, parts⟩ := p
  have kept := partsOf_slashed named
  have slash := rootOf_slash (head_slashed named)
  cases root with
  | relative => cases absolute
  | slash =>
      have text : (text ⟨.slash, parts⟩).toList = '/' :: (slashed parts).toList := by
        simp [Path.text]
      simp only [ofText, text, slash.1, splitSlash_slash, List.filter_cons, List.isEmpty_nil]
      simpa using kept
  | doubleSlash =>
      have text : (text ⟨.doubleSlash, parts⟩).toList = '/' :: '/' :: (slashed parts).toList := by
        simp [Path.text]
      simp only [ofText, text, slash.2, splitSlash_slash, List.filter_cons, List.isEmpty_nil]
      simpa using kept

theorem not_namesDirectory_text {p : Path} (named : p.Named) (absolute : p.isAbsolute = true)
    (nonempty : p.parts ≠ []) : namesDirectory p.text = false := by
  obtain ⟨root, parts⟩ := p
  have split := splitSlash_slashed named nonempty
  have last : ∀ front : List (List Char), (front ++ parts.map String.toList).getLast? =
      some (parts.getLast nonempty).toList := by
    intro front
    rw [List.getLast?_append, List.getLast?_map, List.getLast?_eq_some_getLast nonempty]
    rfl
  obtain ⟨nonempty', point, -⟩ := named _ (List.getLast_mem nonempty)
  have other : (parts.getLast nonempty).toList ≠ ['.'] :=
    fun same => point (String.toList_inj.1 same)
  cases root with
  | relative => cases absolute
  | slash =>
      have text : (text ⟨.slash, parts⟩).toList = '/' :: (slashed parts).toList := by
        simp [Path.text]
      have final := last [[]]
      rw [List.singleton_append] at final
      rw [namesDirectory, text, splitSlash_slash, split, final]
      simpa using And.intro nonempty' other
  | doubleSlash =>
      have text : (text ⟨.doubleSlash, parts⟩).toList = '/' :: '/' :: (slashed parts).toList := by
        simp [Path.text]
      have final := last [[], []]
      rw [List.cons_append, List.singleton_append] at final
      rw [namesDirectory, text, splitSlash_slash, splitSlash_slash, split, final]
      simpa using And.intro nonempty' other

end Path

structure Path.Full (p : Path) : Prop where
  absolute : p.isAbsolute = true
  named : p.Named

theorem Path.Full.join {p q : Path} (hp : p.Full) (hq : q.Named) : (p.join q).Full := by
  refine ⟨?_, hp.named.join hq⟩
  rw [Path.join]
  split
  · assumption
  · exact hp.absolute

namespace Host

structure Standing (h : Host) : Prop where
  working : h.working.Full
  project : h.project.Full
  home : h.home.Full

variable {h : Host} {t : FileTree} {p q : Path} {how : Lookup}

theorem Standing.expand (standing : h.Standing) (named : p.Named) (found : h.expand p = .ok q) :
    q.Named := by
  unfold Host.expand at found
  split at found
  · next first rest root parts =>
      split at found
      · cases found
        have later : ∀ part ∈ rest, Path.IsName part := fun part mem =>
          named part (by rw [parts]; exact List.mem_cons_of_mem _ mem)
        intro part mem
        rcases List.mem_append.1 mem with mem | mem
        · exact standing.home.named part mem
        · exact later part mem
      · split at found
        · cases found
        · cases found
          exact named
  · cases found
    exact named

theorem Standing.resolve (standing : h.Standing) (named : p.Named)
    (found : h.resolve t p how = .ok q) : q.Full := by
  unfold Host.resolve at found
  split at found
  · cases found
  · next e expanded =>
      have named := standing.expand named expanded
      dsimp only at found
      split at found
      · next absolute =>
          split at found
          · cases found
          · cases found
            exact ⟨absolute, named⟩
      · have working := standing.working.join named
        have project := standing.project.join named
        grind

end Host

namespace FileTree

variable {t : FileTree} {cwd : Location} {p : Path} {bs : Bytes}

theorem parts_ne_nil_of_read (full : p.Full) (stored : t.read cwd p = .ok bs) : p.parts ≠ [] := by
  intro empty
  obtain ⟨l, leads, found⟩ := read_eq_ok_iff.1 stored
  rw [locate, if_pos full.absolute, empty] at leads
  cases leads
  cases found

theorem text_ne_empty (full : p.Full) : p.text ≠ "" := by
  intro empty
  have absolute := full.absolute
  rw [← Path.ofText_text full.named full.absolute, empty] at absolute
  cases absolute

theorem statText_of_read (full : p.Full) (stored : t.read cwd p = .ok bs) :
    t.statText cwd p.text = .ok (.file bs) := by
  have there : t.stat cwd (Path.ofText p.text) = .ok (.file bs) := by
    rw [Path.ofText_text full.named full.absolute]
    exact stat_eq_ok_iff.2 (read_eq_ok_iff.1 stored)
  have file := Path.not_namesDirectory_text full.named full.absolute
    (parts_ne_nil_of_read full stored)
  simp only [statText, text_ne_empty full, there, file, if_false, Bool.false_eq_true]

theorem read_of_statText (full : p.Full) (found : t.statText cwd p.text = .ok (.file bs)) :
    t.read cwd p = .ok bs := by
  rw [statText, if_neg (text_ne_empty full), Path.ofText_text full.named full.absolute] at found
  rw [read_eq_ok_iff, ← stat_eq_ok_iff]
  cases there : t.stat cwd p with
  | error e =>
      rw [there] at found
      cases found
  | ok entry =>
      rw [there] at found
      cases entry with
      | directory => cases found
      | file content =>
          dsimp only at found
          split at found
          · cases found
          · exact found

end FileTree

end Handover
