import Handover.Proofs.Configuration.Document
import Handover.Proofs.Yaml.Printed

namespace Handover

namespace Configuration

variable {es es' m n : List (Value × Value)} {v w : Value} {c d : Configuration}
  {journal journal' : List Event} {slot : Slot} {sectionName : String}

inductive Reordered : Value → Value → Prop
  | same (v : Value) : Reordered v v
  | entries {m n : List (Value × Value)} (order : m.Perm n) : Reordered (.map m) (.map n)

def Covered (es es' : List (Value × Value)) : Prop :=
  ∀ (slot : Slot) (v : Value), (.text slot.sectionName, v) ∈ es →
    ∃ w, (.text slot.sectionName, w) ∈ es' ∧ Reordered v w

structure SameSections (es es' : List (Value × Value)) : Prop where
  forth : Covered es es'
  back : Covered es' es

theorem Reordered.of_map (h : Reordered (.map m) v) : ∃ n, v = .map n ∧ m.Perm n := by
  cases h with
  | same => exact ⟨m, rfl, .refl m⟩
  | entries order => exact ⟨_, rfl, order⟩

theorem Reordered.to_map (h : Reordered v (.map n)) : ∃ m, v = .map m ∧ m.Perm n := by
  cases h with
  | same => exact ⟨n, rfl, .refl n⟩
  | entries order => exact ⟨_, rfl, order⟩

theorem Known.perm (order : m.Perm n) (known : Known sectionName m) : Known sectionName n :=
  fun e mem => known e (order.mem_iff.2 mem)

theorem FitsSection.covered (covered : Covered es' es) (fits : FitsSection slot.sectionName es) :
    FitsSection slot.sectionName es' := by
  intro v mem
  obtain ⟨w, there, reordered⟩ := covered slot v mem
  obtain ⟨m, rfl, known⟩ := fits w there
  obtain ⟨n, rfl, order⟩ := reordered.to_map
  exact ⟨n, rfl, known.perm order.symm⟩

theorem Gives.sameSections (same : SameSections es es') {default : Value}
    (gives : Gives es slot default v) : Gives es' slot default v := by
  constructor
  · intro n w section' mem
    obtain ⟨u, there, reordered⟩ := same.back slot _ section'
    obtain ⟨m, rfl, order⟩ := reordered.of_map
    exact gives.given m w there (order.mem_iff.1 mem)
  · intro absent
    refine gives.absent fun m w section' mem => ?_
    obtain ⟨u, there, reordered⟩ := same.forth slot _ section'
    obtain ⟨n, rfl, order⟩ := reordered.of_map
    exact absent n w there (order.mem_iff.1 mem)

theorem Denotes.defaults (empty : Covered es []) (denotes : Denotes es c) : c = {} := by
  refine eq_of_get fun slot => (denotes slot).absent fun m w section' => ?_
  obtain ⟨u, there, -⟩ := empty slot _ section'
  cases there

theorem Taken.sameSections (same : SameSections es es') (taken : Taken (.map es) c journal)
    (taken' : Taken (.map es') d journal') : c = d := by
  cases taken with
  | whole mapping fits denotes =>
      cases mapping
      cases taken' with
      | whole mapping' fits' denotes' =>
          cases mapping'
          exact Denotes.unique (fun slot => (denotes slot).sameSections same) denotes'
      | nothing text unfit =>
          -- only an empty document has these sections and does not fit
          have empty : es' = [] := by
            by_contra nonempty
            exact unfit es' rfl ⟨nonempty, fun slot => (fits.sections slot).covered same.back⟩
          exact denotes.defaults (empty ▸ same.forth)
  | nothing text unfit =>
      cases taken' with
      | whole mapping' fits' denotes' =>
          cases mapping'
          have empty : es = [] := by
            by_contra nonempty
            exact unfit es rfl ⟨nonempty, fun slot => (fits'.sections slot).covered same.forth⟩
          exact (denotes'.defaults (empty ▸ same.back)).symm
      | nothing text' unfit' => rfl

end Configuration

namespace ConfigurationFile

open Handover.Configuration (Taken SameSections taken_of_parsed)

def Holds (t : FileTree) (cwd : Location) (path : String) (v : Value) : Prop :=
  ∃ bs, t.statText cwd path = .ok (.file bs) ∧ Yaml.ofBytes bs = .ok v

variable {t : FileTree} {cwd : Location} {path : String} {v : Value}

theorem Holds.read (holds : Holds t cwd path v) :
    ConfigurationFile.read cwd path t = ⟨.ok (ofDocument path v).1, t, (ofDocument path v).2⟩ := by
  obtain ⟨bs, stored, parsed⟩ := holds
  simp only [ConfigurationFile.read, stored, parsed]

theorem Holds.taken (holds : Holds t cwd path v) :
    Taken v (ofDocument path v).1 (ofDocument path v).2 := by
  obtain ⟨bs, -, parsed⟩ := holds
  exact taken_of_parsed parsed path

theorem read_takenWhole (holds : Holds t cwd path v) :
    (∃ c journal, read cwd path t = ⟨.ok c, t, journal⟩ ∧ Taken v c journal) ∧
      ∀ (t' : FileTree) (cwd' : Location) (path' : String) (es es' : List (Value × Value)),
        v = .map es → Holds t' cwd' path' (.map es') → SameSections es es' →
          (read cwd' path' t').value = (read cwd path t).value := by
  refine ⟨⟨_, _, holds.read, holds.taken⟩, ?_⟩
  rintro t' cwd' path' es es' rfl holds' same
  rw [holds.read, holds'.read, holds.taken.sameSections same holds'.taken]

def misfitText : String := "device:\n  serial: a\nlogging:\n  colour: b\n"

def misfitGraph : Yaml.Graph where
  nodes := #[.scalar .text "device", .scalar .text "serial", .scalar .text "a",
    .mapping .mapping [(1, 2)], .scalar .text "logging", .scalar .text "colour",
    .scalar .text "b", .mapping .mapping [(5, 6)], .mapping .mapping [(0, 3), (4, 7)]]
  root := 8

def misfitEntries : List (Value × Value) :=
  [(.text "device", .map [(.text "serial", .text "a")]),
    (.text "logging", .map [(.text "colour", .text "b")])]

theorem ofBytes_misfitText :
    Yaml.ofBytes (Text.Utf8.encode misfitText) = .ok (.map misfitEntries) := by
  have written : misfitGraph.isWrittenAs misfitText.toList = true := by decide +kernel
  rw [Yaml.ofBytes_text written]
  rfl

theorem read_takenWhole_misfit :
    Holds ⟨[(["c"], .file (Text.Utf8.encode misfitText))]⟩ [] "/c" (.map misfitEntries) ∧
      (read [] "/c" ⟨[(["c"], .file (Text.Utf8.encode misfitText))]⟩).value = .ok {} := by
  have holds : Holds ⟨[(["c"], .file (Text.Utf8.encode misfitText))]⟩ [] "/c"
      (.map misfitEntries) := ⟨_, rfl, ofBytes_misfitText⟩
  refine ⟨holds, ?_⟩
  obtain ⟨⟨c, journal, taken, whole⟩, -⟩ := read_takenWhole holds
  rw [taken]
  cases whole with
  | nothing => rfl
  | whole mapping fits =>
      cases mapping
      obtain ⟨m, ⟨⟩, known⟩ := fits.sections .debug _ (List.mem_cons_of_mem _ List.mem_cons_self)
      obtain ⟨slot, -, name⟩ := known _ List.mem_cons_self
      cases slot <;> simp [Slot.name] at name

end ConfigurationFile

end Handover
