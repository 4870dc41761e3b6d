import Handover.Configuration.Manager
import Handover.Proofs.Action
import Handover.Proofs.Configuration.Document
import Handover.Proofs.Files.Path

namespace Handover

variable {t : FileTree} {cwd : Location} {p : Path} {bs : Bytes} {v : Value} {e : Yaml.Fault}

namespace ConfigurationFile

theorem load_of_isThere (there : t.isThere cwd p = true) : load cwd p t = read cwd p.text t := by
  rw [load, Action.get_bind, if_pos there]

theorem load_of_error (full : p.Full) (stored : t.read cwd p = .ok bs)
    (refused : Yaml.ofBytes bs = .error e) :
    load cwd p t = ⟨.error (.document e), t, []⟩ := by
  rw [load_of_isThere (FileTree.isThere_of_read stored)]
  simp only [read, FileTree.statText_of_read full stored, refused]

theorem load_of_ok (full : p.Full) (stored : t.read cwd p = .ok bs)
    (parsed : Yaml.ofBytes bs = .ok v) :
    load cwd p t = ⟨.ok (ofDocument p.text v).1, t, (ofDocument p.text v).2⟩ := by
  rw [load_of_isThere (FileTree.isThere_of_read stored)]
  simp only [read, FileTree.statText_of_read full stored, parsed]

theorem ensureParent_of_locate {l : Location} (absolute : p.isAbsolute = true)
    (leads : t.locate cwd p = .ok l) : ensureParent cwd p t = ⟨.ok (), t, []⟩ := by
  have parent := FileTree.stat_parent absolute leads
  simp only [ensureParent, FileTree.ensureDirectory_of_stat parent]

theorem ensure_of_isThere (absolute : p.isAbsolute = true) (there : t.isThere cwd p = true) :
    ensure cwd p t = ⟨.ok (), t, []⟩ := by
  obtain ⟨l, -, leads, -⟩ := FileTree.isThere_iff.1 there
  rw [ensure, Action.bind_of_eq (ensureParent_of_locate absolute leads), Action.get_bind,
    if_pos there]
  rfl

end ConfigurationFile

def ManagerSite.running (t : FileTree) (m : Manager) : ManagerSite :=
  ⟨t, some (.ofManager m)⟩

@[simp] theorem ManagerSite.tree_running (t : FileTree) (m : Manager) : (running t m).tree = t :=
  rfl

@[simp] theorem ManagerSite.manager_running (t : FileTree) (m : Manager) :
    (running t m).manager = some m :=
  rfl

theorem ManagerSite.manager_eq_none_iff {site : ManagerSite} :
    site.manager = none ↔ ∀ i, site.published = some i → i.initialized = false := by
  rw [manager]
  cases site.published with
  | none => simp
  | some i => simp [Instance.manager?]

namespace Manager

open Handover.Configuration (Stands)

def Chosen (h : Host) (p : Path) : Prop :=
  ∃ t argument, h.resolve t (Path.ofText (pathText argument h.configVariable)) {} = .ok p

inductive Reads (h : Host) (site : ManagerSite) (p : Path) : Action ManagerSite Fault Manager → Prop
  | again {config : Configuration} (chosen : Chosen h p) : Reads h site p (reload h ⟨p, config⟩)
  | first {argument : Option String} (unstarted : site.manager = none)
      (found : h.resolve site.tree (Path.ofText (pathText argument h.configVariable)) {} = .ok p) :
      Reads h site p (construct h argument)

/-- The call returned, and the configuration in memory is the one that the bytes stand for. -/
def FallsBack (bs : Bytes) (r : Result ManagerSite Fault Manager) : Prop :=
  ∃ m, r.value = .ok m ∧ r.state.manager = some m ∧ Stands bs m.config

/-- The call failed. Files and manager are as before, though an instance may be left unfinished. -/
structure Fails (site : ManagerSite) (e : Fault) (r : Result ManagerSite Fault Manager) : Prop where
  value : r.value = .error e
  tree : r.state.tree = site.tree
  manager : r.state.manager = site.manager
  journal : r.journal = []

variable {h : Host} {site : ManagerSite} {call : Action ManagerSite Fault Manager}

theorem Chosen.full (standing : h.Standing) (chosen : Chosen h p) : p.Full := by
  obtain ⟨t, argument, found⟩ := chosen
  exact standing.resolve (Path.named_ofText _) found

theorem Reads.chosen (reads : Reads h site p call) : Chosen h p := by
  cases reads with
  | again chosen => exact chosen
  | first unstarted found => exact ⟨_, _, found⟩

def start (h : Host) (argument : Option String) : Action FileTree Fault Manager := do
  let t ← Action.get
  let path ← Action.lift (h.resolve t (Path.ofText (pathText argument h.configVariable)) {})
  ConfigurationFile.ensure h.location path
  let config ← ConfigurationFile.load h.location path
  pure { path, config }

inductive Leaves : Except Fault Manager → Option Instance → Prop
  | finished (m : Manager) : Leaves (.ok m) (some (.ofManager m))
  | unfinished {e : Fault} {i : Instance} (uninitialised : i.initialized = false) :
      Leaves (.error e) (some i)

/-- A start on the files alone, and one that publishes an instance as well. -/
structure SetsUp (s : Result FileTree Fault Manager) (r : Result ManagerSite Fault Manager) :
    Prop where
  value : r.value = s.value
  tree : r.state.tree = s.state
  journal : r.journal = s.journal
  published : Leaves r.value r.state.published

theorem Leaves.manager {value : Except Fault Manager} {published : Option Instance}
    (leaves : Leaves value published) : published.bind Instance.manager? = value.toOption := by
  cases leaves with
  | finished m => rfl
  | unfinished uninitialised => simp [Instance.manager?, uninitialised, Except.toOption]

theorem SetsUp.returned {m : Manager} {u : FileTree} {journal : List Event}
    {r : Result ManagerSite Fault Manager} (setsUp : SetsUp ⟨.ok m, u, journal⟩ r) :
    r = ⟨.ok m, .running u m, journal⟩ := by
  obtain ⟨value, ⟨tree, published⟩, journal⟩ := r
  obtain ⟨⟨⟩, ⟨⟩, ⟨⟩, ⟨⟩⟩ := setsUp
  rfl

theorem setUp_setsUp (argument : Option String) (t : FileTree) {i : Instance}
    (uninitialised : i.initialized = false) :
    SetsUp (start h argument t) (setUp h argument ⟨t, some i⟩) := by
  unfold setUp start
  simp only [Action.bind_apply, Action.get, Action.lift]
  cases h.resolve t (Path.ofText (pathText argument h.configVariable)) {} with
  | error e => exact ⟨rfl, rfl, rfl, .unfinished uninitialised⟩
  | ok path =>
      simp only [publish, Action.modify, onTree, Action.zoom]
      rcases ConfigurationFile.ensure h.location path t with ⟨_ | ⟨⟩, u, journal⟩
      · exact ⟨rfl, rfl, rfl, .unfinished rfl⟩
      · dsimp only
        rcases ConfigurationFile.load h.location path u with ⟨_ | config, w, journal'⟩
        · exact ⟨rfl, rfl, rfl, .unfinished rfl⟩
        · exact ⟨rfl, rfl, rfl, .finished _⟩

theorem construct_setsUp (h : Host) (argument : Option String) {site : ManagerSite}
    (unstarted : site.manager = none) :
    SetsUp (start h argument site.tree) (construct h argument site) := by
  obtain ⟨t, published⟩ := site
  have uninitialised := ManagerSite.manager_eq_none_iff.1 unstarted
  cases published with
  | none => exact setUp_setsUp argument t rfl
  | some i =>
      have same : construct h argument ⟨t, some i⟩ = setUp h argument ⟨t, some i⟩ := by
        rw [construct, Action.get_bind, unstarted]
        rfl
      rw [same]
      exact setUp_setsUp argument t (uninitialised i rfl)

def settled (site : ManagerSite) (p : Path) : Except Fault Configuration → ManagerSite
  | .error _ => site
  | .ok config => .running site.tree ⟨p, config⟩

section

variable {u : FileTree} {value : Except Fault Configuration} {journal : List Event}

theorem start_of_load {argument : Option String}
    (found : h.resolve t (Path.ofText (pathText argument h.configVariable)) {} = .ok p)
    (made : ConfigurationFile.ensure h.location p t = ⟨.ok (), u, []⟩)
    (loaded : ConfigurationFile.load h.location p u = ⟨value, u, journal⟩) :
    start h argument t = ⟨value.map (Manager.mk p), u, journal⟩ := by
  have chosen : (Action.lift (h.resolve t
      (Path.ofText (pathText argument h.configVariable)) {}) : Action FileTree Fault Path) t =
        ⟨.ok p, t, []⟩ := by
    rw [found]
    rfl
  rw [start, Action.get_bind, Action.bind_of_eq chosen, Action.bind_of_eq made, Action.bind_apply,
    loaded]
  cases value with
  | error e => rfl
  | ok config => simp [Action.pure_apply, Except.map]

theorem onTree_of_eq {α : Type} {x : Action FileTree Fault α} {result : Except Fault α}
    (h : x site.tree = ⟨result, u, journal⟩) :
    onTree x site = ⟨result, { site with tree := u }, journal⟩ := by
  simp only [onTree, Action.zoom, h]

theorem reload_of_load {config : Configuration}
    (loaded : ConfigurationFile.load h.location p site.tree = ⟨value, u, journal⟩) :
    reload h ⟨p, config⟩ site =
      ⟨value.map (Manager.mk p), settled { site with tree := u } p value, journal⟩ := by
  rw [reload, Action.bind_apply, onTree_of_eq loaded]
  cases value with
  | error e => rfl
  | ok config =>
      simp [publish, Action.modify, Action.bind_apply, Action.pure_apply, Except.map, settled,
        ManagerSite.running]

theorem start_of_stored {argument : Option String} (full : p.Full)
    (found : h.resolve t (Path.ofText (pathText argument h.configVariable)) {} = .ok p)
    (stored : t.read h.location p = .ok bs)
    (loaded : ConfigurationFile.load h.location p t = ⟨value, t, journal⟩) :
    start h argument t = ⟨value.map (Manager.mk p), t, journal⟩ :=
  start_of_load found
    (ConfigurationFile.ensure_of_isThere full.absolute (FileTree.isThere_of_read stored)) loaded

end

theorem Reads.fails (standing : h.Standing) (reads : Reads h site p call)
    (stored : site.tree.read h.location p = .ok bs) (refused : Yaml.ofBytes bs = .error e) :
    Fails site (.document e) (call site) := by
  have full := reads.chosen.full standing
  have loaded := ConfigurationFile.load_of_error full stored refused
  cases reads with
  | again =>
      rw [reload_of_load loaded]
      exact ⟨rfl, rfl, rfl, rfl⟩
  | @first argument unstarted found =>
      have setsUp := construct_setsUp h argument unstarted
      have started := start_of_stored full found stored loaded
      have value := setsUp.value.trans (congrArg Result.value started)
      refine ⟨value, setsUp.tree.trans (congrArg Result.state started), ?_,
        setsUp.journal.trans (congrArg Result.journal started)⟩
      rw [unstarted, ManagerSite.manager, setsUp.published.manager, value]
      rfl

theorem Reads.fallsBack (standing : h.Standing) (reads : Reads h site p call)
    (stored : site.tree.read h.location p = .ok bs) (parsed : Yaml.ofBytes bs = .ok v) :
    FallsBack bs (call site) := by
  have full := reads.chosen.full standing
  have loaded := ConfigurationFile.load_of_ok full stored parsed
  have stands := Configuration.stands_ofDocument parsed p.text
  cases reads with
  | again =>
      rw [reload_of_load loaded]
      exact ⟨_, rfl, rfl, stands⟩
  | @first argument unstarted found =>
      have setsUp := construct_setsUp h argument unstarted
      have started := start_of_stored full found stored loaded
      have value := setsUp.value.trans (congrArg Result.value started)
      refine ⟨_, value, ?_, stands⟩
      rw [ManagerSite.manager, setsUp.published.manager, value]
      rfl

def illHost : Host :=
  ⟨⟨.slash, ["w"]⟩, ⟨.slash, ["p"]⟩, ⟨.slash, ["h"]⟩, none⟩

def illSite : ManagerSite :=
  ⟨⟨[(["w"], .directory), (["w", "c"], .file [0xFF])]⟩, none⟩

theorem illHost_standing : illHost.Standing := by
  have full (name : String) (h : Path.IsName name) : (⟨.slash, [name]⟩ : Path).Full := by
    refine ⟨rfl, ?_⟩
    simpa [Path.Named] using h
  exact ⟨full "w" (by simp [Path.IsName]), full "p" (by simp [Path.IsName]),
    full "h" (by simp [Path.IsName])⟩

end Manager

end Handover
