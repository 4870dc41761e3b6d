import Handover.Proofs.Configuration.Starting

namespace Handover

variable {t u : FileTree} {cwd : Location} {p : Path} {bs : Bytes} {h : Host}

namespace FileTree

def Writable (t : FileTree) (cwd : Location) (p : Path) : Prop :=
  ∃ l, t.locate cwd p = .ok l ∧ t.find? l ≠ some .directory

theorem Writable.write (writable : t.Writable cwd p) (bs : Bytes) :
    ∃ u, t.write cwd p bs = .ok u := by
  obtain ⟨l, leads, file⟩ := writable
  exact ⟨_, write_eq_ok_iff.2 ⟨l, leads, file, rfl⟩⟩

theorem Writable.sameDirectories (writable : t.Writable cwd p) (same : t.SameDirectories u) :
    u.Writable cwd p := by
  obtain ⟨l, leads, file⟩ := writable
  exact ⟨l, same.locate.1 leads, mt (same l).2 file⟩

theorem writable_of_read (stored : t.read cwd p = .ok bs) : t.Writable cwd p := by
  obtain ⟨l, leads, found⟩ := read_eq_ok_iff.1 stored
  exact ⟨l, leads, by simp [found]⟩

theorem Writable.read_or_missing (writable : t.Writable cwd p) :
    (∃ bs, t.read cwd p = .ok bs) ∨ t.isThere cwd p = false := by
  obtain ⟨l, leads, file⟩ := writable
  cases there : t.isThere cwd p with
  | false => exact .inr rfl
  | true =>
      obtain ⟨m, e, leads', found⟩ := isThere_iff.1 there
      cases leads.symm.trans leads'
      cases e with
      | directory => exact absurd found file
      | file bs => exact .inl ⟨bs, read_eq_ok_iff.2 ⟨l, leads, found⟩⟩

def changed (t : FileTree) : Except FileFault FileTree → FileTree
  | .ok u => u
  | .error _ => t

theorem sameDirectories_changed {change : Except FileFault FileTree}
    (same : ∀ u, change = .ok u → t.SameDirectories u) : t.SameDirectories (t.changed change) := by
  cases change with
  | ok u => exact same u rfl
  | error e => exact fun _ => Iff.rfl

end FileTree

namespace ConfigurationFile

theorem load_of_missing (absolute : p.isAbsolute = true) (writable : t.Writable cwd p)
    (missing : t.isThere cwd p = false) :
    ∃ u, t.write cwd p (bytes {}) = .ok u ∧ load cwd p t = ⟨.ok {}, u, []⟩ := by
  obtain ⟨u, written⟩ := writable.write (bytes {})
  obtain ⟨l, leads, -⟩ := writable
  have made : ensure cwd p t = ⟨.ok (), u, []⟩ := by
    rw [ensure, Action.bind_of_eq (ensureParent_of_locate absolute leads), Action.get_bind,
      if_neg (Bool.eq_false_iff.1 missing)]
    simp only [write, written, List.nil_append]
  refine ⟨u, written, ?_⟩
  rw [load, Action.get_bind, if_neg (Bool.eq_false_iff.1 missing), Action.bind_of_eq made]
  rfl

end ConfigurationFile

namespace Manager

open Handover.Action (Ends)
open Handover.Configuration (ComesBack)
open ConfigurationFile (bytes)
open Yaml (Inverted printed)

inductive Assigned where
  | text (t : Text)
  | bool (b : Bool)
  | null

def Assigned.value : Assigned → Value
  | text t => .text t
  | bool b => .bool b
  | null => .null

inductive Step where
  | assign (slot : Slot) (a : Assigned)
  | save
  | reload
  | overwrite (bs : Bytes)
  | delete

def assign (slot : Slot) (a : Assigned) (m : Manager) : Manager :=
  { m with config := m.config.set slot.sectionName slot.name a.value }

def perform (h : Host) (step : Step) : Action ManagerSite Fault Unit := do
  let site ← Action.get
  match site.manager with
  | none => pure ()
  | some m =>
      match step with
      | .assign slot a => publish (.ofManager (m.assign slot a))
      | .save => save h m
      | .reload => do
          let _ ← reload h m
          pure ()
      | .overwrite bs =>
          Action.modify fun s =>
            { s with tree := s.tree.changed (s.tree.write h.location m.path bs) }
      | .delete =>
          Action.modify fun s =>
            { s with tree := s.tree.changed (s.tree.unlink h.location m.path) }

def after (h : Host) (site : ManagerSite) (run : List Step) : ManagerSite :=
  run.foldl (fun site step => (perform h step site).state) site

variable {c : Configuration} {m : Manager} {site : ManagerSite}

theorem perform_save (written : t.write h.location p (bytes c) = .ok u) :
    Ends (perform h .save) (.running t ⟨p, c⟩) (.ok ()) (.running u ⟨p, c⟩) := by
  have saved : ConfigurationFile.write h.location p c t = ⟨.ok (), u, []⟩ := by
    simp only [ConfigurationFile.write, written]
  have call : save h ⟨p, c⟩ (.running t ⟨p, c⟩) = ⟨.ok (), .running u ⟨p, c⟩, []⟩ :=
    onTree_of_eq saved
  exact ⟨congrArg Result.value call, congrArg Result.state call⟩

theorem perform_reload {value : Except Fault Configuration} {journal : List Event}
    (loaded : ConfigurationFile.load h.location p t = ⟨value, u, journal⟩) :
    Ends (perform h .reload) (.running t ⟨p, c⟩) (value.map fun _ => ())
      (settled (.running u ⟨p, c⟩) p value) := by
  have call : reload h ⟨p, c⟩ (.running t ⟨p, c⟩) =
      ⟨value.map (Manager.mk p), settled (.running u ⟨p, c⟩) p value, journal⟩ :=
    reload_of_load loaded
  have ends : Ends (reload h ⟨p, c⟩ >>= fun _ => pure ()) (.running t ⟨p, c⟩)
      (value.map fun _ => ()) (settled (.running u ⟨p, c⟩) p value) := by
    cases value with
    | error e => exact Ends.bind_error ⟨congrArg Result.value call, congrArg Result.state call⟩ _
    | ok d =>
        exact Ends.bind ⟨congrArg Result.value call, congrArg Result.state call⟩ ⟨rfl, rfl⟩
  exact ⟨ends.value, ends.state⟩

structure Kept (h : Host) (p : Path) (site : ManagerSite) : Prop where
  running : ∃ t c, site = .running t ⟨p, c⟩
  writable : site.tree.Writable h.location p

theorem Kept.sameDirectories (kept : Kept h p (.running t ⟨p, c⟩)) (same : t.SameDirectories u)
    (d : Configuration) : Kept h p (.running u ⟨p, d⟩) :=
  ⟨⟨u, d, rfl⟩, kept.writable.sameDirectories same⟩

theorem Kept.write (kept : Kept h p (.running t ⟨p, c⟩)) (bs : Bytes) :
    ∃ u, t.write h.location p bs = .ok u :=
  kept.writable.write bs

theorem Kept.reload_cases (full : p.Full) (kept : Kept h p (.running t ⟨p, c⟩)) :
    (∃ value, Ends (perform h .reload) (.running t ⟨p, c⟩) (value.map fun _ => ())
        (settled (.running t ⟨p, c⟩) p value)) ∨
      ∃ u, t.write h.location p (bytes {}) = .ok u ∧
        Ends (perform h .reload) (.running t ⟨p, c⟩) (.ok ()) (.running u ⟨p, {}⟩) := by
  obtain ⟨bs, stored⟩ | missing := kept.writable.read_or_missing
  · left
    cases parsed : Yaml.ofBytes bs with
    | error e => exact ⟨_, perform_reload (ConfigurationFile.load_of_error full stored parsed)⟩
    | ok v => exact ⟨_, perform_reload (ConfigurationFile.load_of_ok full stored parsed)⟩
  · obtain ⟨u, written, loaded⟩ :=
      ConfigurationFile.load_of_missing full.absolute kept.writable missing
    exact .inr ⟨u, written, perform_reload loaded⟩

theorem Kept.step (full : p.Full) (kept : Kept h p site) (step : Step) :
    Kept h p (perform h step site).state := by
  obtain ⟨t, c, rfl⟩ := kept.running
  cases step with
  | assign slot a => exact ⟨⟨t, _, rfl⟩, kept.writable⟩
  | save =>
      obtain ⟨u, written⟩ := kept.write (bytes c)
      rw [(perform_save written).state]
      exact kept.sameDirectories (FileTree.sameDirectories_write written) c
  | reload =>
      obtain ⟨value, ends⟩ | ⟨u, written, ends⟩ := kept.reload_cases full
      · rw [ends.state]
        cases value with
        | error e => exact kept
        | ok d => exact ⟨⟨t, d, rfl⟩, kept.writable⟩
      · rw [ends.state]
        exact kept.sameDirectories (FileTree.sameDirectories_write written) {}
  | overwrite bs =>
      exact kept.sameDirectories
        (FileTree.sameDirectories_changed fun u => FileTree.sameDirectories_write) c
  | delete =>
      exact kept.sameDirectories
        (FileTree.sameDirectories_changed fun u => FileTree.sameDirectories_unlink) c

theorem Kept.run (full : p.Full) (kept : Kept h p site) (run : List Step) :
    Kept h p (after h site run) := by
  induction run generalizing site with
  | nil => exact kept
  | cons step rest ih => exact ih (kept.step full step)

def assigned (edits : List (Slot × Assigned)) : List Step :=
  edits.map fun e => .assign e.1 e.2

/-- The save and the reload after the assignments return, and what was saved is in memory again. -/
def Restored (h : Host) (site : ManagerSite) (edits : List (Slot × Assigned)) : Prop :=
  ∃ m, site.manager = some m ∧ (perform h .save site).value = .ok () ∧
    Ends (perform h .reload) (after h site (.save :: assigned edits)) (.ok ())
      (.running (after h site (.save :: assigned edits)).tree m)

/-- Where no file is, a reload gives the defaults and makes a file of them, and so does not change
what the next reload gives. -/
def Recreated (h : Host) (site : ManagerSite) : Prop :=
  ∃ m, site.manager = some m ∧ (site.tree.isThere h.location m.path = false →
    ∃ u, Ends (perform h .reload) site (.ok ()) (.running u ⟨m.path, {}⟩) ∧
      u.read h.location m.path = .ok (printed ({} : Configuration).entries) ∧
      ∀ edits, Ends (perform h .reload) (after h (.running u ⟨m.path, {}⟩) (assigned edits)) (.ok ())
        (.running u ⟨m.path, {}⟩))

def Unharmed (h : Host) (site : ManagerSite) : Prop :=
  ∀ e, (perform h .reload site).value = .error e → (perform h .reload site).state = site

theorem after_assigned (h : Host) (t : FileTree) (p : Path) (c : Configuration)
    (edits : List (Slot × Assigned)) :
    ∃ d, after h (.running t ⟨p, c⟩) (assigned edits) = .running t ⟨p, d⟩ := by
  induction edits generalizing c with
  | nil => exact ⟨c, rfl⟩
  | cons e rest ih => exact ih _

theorem Kept.restored_iff (full : p.Full) (kept : Kept h p (.running t ⟨p, c⟩))
    (edits : List (Slot × Assigned)) : Restored h (.running t ⟨p, c⟩) edits ↔ ComesBack c := by
  obtain ⟨u, written⟩ := kept.write (bytes c)
  obtain ⟨d, edited⟩ := after_assigned h u p c edits
  have saved := perform_save written
  have run : after h (.running t ⟨p, c⟩) (.save :: assigned edits) = .running u ⟨p, d⟩ := by
    rw [after, List.foldl_cons, saved.state, ← after, edited]
  have stored := FileTree.read_of_write written
  rw [ConfigurationFile.bytes_eq] at stored
  have restored : Restored h (.running t ⟨p, c⟩) edits ↔
      Ends (perform h .reload) (.running u ⟨p, d⟩) (.ok ()) (.running u ⟨p, c⟩) := by
    simp [Restored, run, saved.value]
  rw [restored]
  cases parsed : Yaml.ofBytes (printed c.entries) with
  | error e =>
      have ends := perform_reload (c := d) (ConfigurationFile.load_of_error full stored parsed)
      refine iff_of_false ?_ ?_
      · intro returned
        cases returned.value.symm.trans ends.value
      · rintro ⟨v, journal, parsed', -⟩
        cases parsed.symm.trans parsed'
  | ok v =>
      have ends := perform_reload (c := d) (ConfigurationFile.load_of_ok full stored parsed)
      have taken := Configuration.taken_of_parsed parsed p.text
      constructor
      · intro returned
        have same := congrArg ManagerSite.manager (returned.state.symm.trans ends.state)
        simp only [settled, ManagerSite.manager_running, Option.some.injEq, Manager.mk.injEq,
          true_and] at same
        rw [← same] at taken
        exact ⟨v, _, parsed, taken⟩
      · rintro ⟨w, journal, parsed', taken'⟩
        cases parsed.symm.trans parsed'
        have same := taken'.unique taken
        refine ⟨ends.value, ends.state.trans ?_⟩
        rw [settled, ← same, ManagerSite.tree_running]

theorem Kept.recreated (full : p.Full) (kept : Kept h p (.running t ⟨p, c⟩)) :
    Recreated h (.running t ⟨p, c⟩) := by
  refine ⟨⟨p, c⟩, rfl, fun missing => ?_⟩
  obtain ⟨u, written, loaded⟩ :=
    ConfigurationFile.load_of_missing full.absolute kept.writable missing
  have stored := FileTree.read_of_write written
  refine ⟨u, perform_reload loaded, stored, fun edits => ?_⟩
  obtain ⟨d, edited⟩ := after_assigned h u p {} edits
  rw [edited]
  exact perform_reload
    (ConfigurationFile.load_of_inverted full stored ConfigurationFile.inverted_defaults)

theorem Kept.unharmed (full : p.Full) (kept : Kept h p (.running t ⟨p, c⟩)) :
    Unharmed h (.running t ⟨p, c⟩) := by
  intro e raised
  obtain ⟨value, ends⟩ | ⟨u, -, ends⟩ := kept.reload_cases full
  · rw [ends.value] at raised
    cases value with
    | error e => exact ends.state
    | ok d => cases raised
  · cases raised.symm.trans ends.value

def Initialised (h : Host) (site : ManagerSite) : Prop :=
  ∃ argument t m, Ends (construct h argument) ⟨t, none⟩ (.ok m) site

def Reread (run before : List Step) (edits : List (Slot × Assigned)) : Prop :=
  ∃ later, run = before ++ .save :: assigned edits ++ .reload :: later

def Reloaded (run before : List Step) : Prop :=
  ∃ later, run = before ++ .reload :: later

structure Guarded (h : Host) (site : ManagerSite) (run : List Step) : Prop where
  recreated : ∀ before, Reloaded run before → Recreated h (after h site before)
  unharmed : ∀ before, Reloaded run before → Unharmed h (after h site before)

structure Consistent (h : Host) (site : ManagerSite) (run : List Step) : Prop extends
    Guarded h site run where
  restored : ∀ before edits, Reread run before edits → Restored h (after h site before) edits

/-- A configuration is restored if and only if what is printed of it comes back, as it does where
printing and parsing are inverse to one another. -/
structure RestoredIf (h : Host) (site : ManagerSite) (edits : List (Slot × Assigned))
    (c : Configuration) : Prop where
  exactly : Restored h site edits ↔ ComesBack c
  inverted : Inverted c.entries → Restored h site edits
  simple : (∀ es, (Value.map es).Simple → Inverted es) → (∀ slot, (c.get slot).Simple) →
    Restored h site edits

theorem Kept.restoredIf (full : p.Full) (kept : Kept h p (.running t ⟨p, c⟩))
    (edits : List (Slot × Assigned)) : RestoredIf h (.running t ⟨p, c⟩) edits c := by
  have exactly := kept.restored_iff full edits
  have inverted (h : Inverted c.entries) := exactly.2 (ConfigurationFile.comesBack_of_inverted h)
  refine ⟨exactly, inverted, fun inverts simple => inverted (inverts _ ?_)⟩
  exact Configuration.simple_toValue simple

theorem Initialised.kept (standing : h.Standing) (initialised : Initialised h site) :
    ∃ p, p.Full ∧ Kept h p site := by
  obtain ⟨argument, t, m, value, state⟩ := initialised
  have setsUp := construct_setsUp h argument (unstarted_unpublished (t := t))
  rw [setsUp.value] at value
  have started := started standing value
  obtain ⟨bs, -, stored, -⟩ := started.read
  generalize start h argument t = s at setsUp value stored
  obtain ⟨_, u, journal⟩ := s
  cases value
  rw [setsUp.returned] at state
  refine ⟨m.path, standing.resolve (Path.named_ofText _) started.resolved,
    ⟨u, m.config, state.symm⟩, ?_⟩
  rw [← state]
  exact FileTree.writable_of_read stored

theorem Initialised.reached (standing : h.Standing) (initialised : Initialised h site)
    (before : List Step) :
    ∃ t p c, after h site before = .running t ⟨p, c⟩ ∧ p.Full ∧ Kept h p (.running t ⟨p, c⟩) := by
  obtain ⟨p, full, kept⟩ := initialised.kept standing
  have kept := kept.run full before
  obtain ⟨t, c, here⟩ := kept.running
  exact ⟨t, p, c, here, full, here ▸ kept⟩

theorem guarded_restored_iff (standing : h.Standing) (initialised : Initialised h site)
    (run : List Step) :
    Guarded h site run ∧
      ∀ before edits, Reread run before edits →
        ∃ m, (after h site before).manager = some m ∧
          RestoredIf h (after h site before) edits m.config := by
  refine ⟨⟨fun before _ => ?_, fun before _ => ?_⟩, fun before edits _ => ?_⟩
  all_goals
    obtain ⟨t, p, c, here, full, kept⟩ := initialised.reached standing before
    rw [here]
  · exact kept.recreated full
  · exact kept.unharmed full
  · exact ⟨⟨p, c⟩, rfl, kept.restoredIf full edits⟩

def labelledRun : List Step :=
  [.assign .serial (.text "Büro: 1"), .assign .debug (.bool true), .save, .assign .serial .null,
    .reload]

theorem guarded_restored_iff_detour :
    illHost.Standing ∧ Initialised illHost (.running detourTree ⟨detour, {}⟩) ∧
      Consistent illHost (.running detourTree ⟨detour, {}⟩) labelledRun := by
  have initialised : Initialised illHost (.running detourTree ⟨detour, {}⟩) :=
    ⟨_, _, _, congrArg Result.value construct_detour, congrArg Result.state construct_detour⟩
  obtain ⟨guarded, restored⟩ := guarded_restored_iff illHost_standing initialised labelledRun
  refine ⟨illHost_standing, initialised, guarded, ?_⟩
  intro before edits reread
  obtain ⟨m, manager, restoredIf⟩ := restored before edits reread
  obtain ⟨later, run⟩ := reread
  match before, run with
  | [], run => simp [labelledRun] at run
  | [_], run => simp [labelledRun] at run
  | [_, _], run =>
      simp only [labelledRun, List.cons_append, List.cons.injEq] at run
      obtain ⟨rfl, rfl, -⟩ := run
      cases manager
      exact restoredIf.inverted ConfigurationFile.inverted_labelled
  | _ :: _ :: _ :: rest, run =>
      -- no save but the one after the first two assignments
      have mem : Step.save ∈ [Step.assign .serial .null, .reload] := by
        simp only [labelledRun, List.cons_append, List.cons.injEq] at run
        rw [run.2.2.2]
        simp
      simp at mem

def pairText : String := "device:\n  serial: !!omap [a: b]\n"

def pairGraph : Yaml.Graph where
  nodes := #[.scalar .text "device", .scalar .text "serial", .scalar .text "a", .scalar .text "b",
    .mapping .mapping [(2, 3)], .sequence .orderedMap [4], .mapping .mapping [(1, 5)],
    .mapping .mapping [(0, 6)]]
  root := 7

def pairTree : FileTree :=
  ⟨[(["w"], .directory), (["w", "c"], .file (Text.Utf8.encode pairText))]⟩

def pairPath : Path :=
  ⟨.slash, ["w", "c"]⟩

def pairEntries : List (Value × Value) :=
  [(.text "device", .map [(.text "serial", .list [.tuple [.text "a", .text "b"]])])]

theorem ofBytes_pairText : Yaml.ofBytes (Text.Utf8.encode pairText) = .ok (.map pairEntries) := by
  have written : pairGraph.isWrittenAs pairText.toList = true := by decide +kernel
  rw [Yaml.ofBytes_text written]
  rfl

theorem not_consistent_pairs :
    illHost.Standing ∧
      Initialised illHost (.running pairTree ⟨pairPath, ConfigurationFile.paired⟩) ∧
      ¬ Consistent illHost (.running pairTree ⟨pairPath, ConfigurationFile.paired⟩)
        [.save, .reload] := by
  have full : pairPath.Full := by
    refine ⟨rfl, ?_⟩
    simp [pairPath, Path.Named, Path.IsName]
  have stored : pairTree.read illHost.location pairPath = .ok (Text.Utf8.encode pairText) := by rfl
  have found : illHost.resolve pairTree (Path.ofText (pathText (some "/w/c") illHost.configVariable))
      {} = .ok pairPath := by rfl
  have setsUp := construct_setsUp illHost (some "/w/c") (unstarted_unpublished (t := pairTree))
  rw [ManagerSite.tree, start_of_stored full found stored
    (ConfigurationFile.load_of_ok full stored ofBytes_pairText)] at setsUp
  have made := setsUp.returned
  refine ⟨illHost_standing,
    ⟨_, _, _, congrArg Result.value made, congrArg Result.state made⟩, fun consistent => ?_⟩
  have restored := consistent.restored [] [] ⟨[], rfl⟩
  have kept : Kept illHost pairPath (.running pairTree ⟨pairPath, ConfigurationFile.paired⟩) :=
    ⟨⟨_, _, rfl⟩, FileTree.writable_of_read stored⟩
  exact ConfigurationFile.not_comesBack_paired ((kept.restored_iff full []).1 restored)

end Manager

end Handover
