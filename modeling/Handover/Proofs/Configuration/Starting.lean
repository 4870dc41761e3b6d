import Handover.Proofs.Configuration.Dump
import Handover.Proofs.Configuration.Loading

namespace Handover

variable {t u : FileTree} {cwd : Location} {p q : Path} {bs : Bytes} {h : Host}
  {argument : Option String}

namespace ConfigurationFile

inductive Ensured (cwd : Location) (p : Path) (t : FileTree) : FileTree → Prop
  | found {u : FileTree} (deeper : t.Deepens u) (there : u.isThere cwd p = true) : Ensured cwd p t u
  | made {u w : FileTree} (deeper : t.Deepens u) (missing : u.isThere cwd p = false)
      (written : u.write cwd p (bytes {}) = .ok w) : Ensured cwd p t w

theorem load_of_inverted {c : Configuration} (full : p.Full)
    (stored : t.read cwd p = .ok (bytes c)) (inverted : Yaml.Inverted c.entries) :
    load cwd p t = ⟨.ok c, t, []⟩ := by
  have loaded := load_of_ok full stored inverted
  rw [← Configuration.toValue_eq, ofDocument_toValue] at loaded
  exact loaded

theorem ensureParent_deepens (cwd : Location) (p : Path) (t : FileTree) :
    t.Deepens (ensureParent cwd p t).state := by
  have deeper := FileTree.deepens_ensureDirectory t cwd p.parent
  rw [ensureParent]
  generalize t.ensureDirectory cwd p.parent = r at deeper ⊢
  obtain ⟨u, _ | _⟩ := r
  · exact deeper
  · exact deeper

theorem ensured_of_ok (made : (ensure cwd p t).value = .ok ()) :
    Ensured cwd p t (ensure cwd p t).state := by
  obtain ⟨-, -, last, state⟩ := Action.bind_eq_ok made
  rw [← ensure] at state
  rw [state]
  rw [Action.get_bind] at last ⊢
  have deeper := ensureParent_deepens cwd p t
  generalize (ensureParent cwd p t).state = u at deeper last ⊢
  by_cases there : u.isThere cwd p = true
  · rw [if_pos there]
    exact .found deeper there
  · rw [if_neg there] at last ⊢
    rw [write] at last ⊢
    cases written : u.write cwd p (bytes {}) with
    | error e =>
        rw [written] at last
        cases last
    | ok w => exact .made deeper (Bool.eq_false_iff.2 there) written

theorem Ensured.isThere (ensured : Ensured cwd p t u) : u.isThere cwd p = true := by
  cases ensured with
  | found _ there => exact there
  | made _ _ written => exact FileTree.isThere_of_read (FileTree.read_of_write written)

theorem Ensured.kept (ensured : Ensured cwd p t u) {l : Location}
    (stored : t.find? l = some (.file bs)) : u.find? l = some (.file bs) := by
  cases ensured with
  | found deeper _ => exact deeper.grows l _ stored
  | made deeper missing written =>
      obtain ⟨m, leads, file, rfl⟩ := FileTree.write_eq_ok_iff.1 written
      have below := deeper.grows l _ stored
      have other : l ≠ m := by
        rintro rfl
        cases below.symm.trans (FileTree.find?_of_not_isThere missing leads)
      rw [FileTree.find?_put_of_ne_nil _ (FileTree.ne_nil_of_find? file), if_neg other, below]

theorem Ensured.created (ensured : Ensured cwd p t u) {l : Location}
    (stored : u.find? l = some (.file bs)) :
    t.find? l = some (.file bs) ∨ t.find? l = none ∧ u.locate cwd p = .ok l := by
  cases ensured with
  | found deeper _ => exact .inl (deeper.file_iff.2 stored)
  | made deeper missing written =>
      have same := FileTree.sameDirectories_write written
      obtain ⟨m, leads, file, rfl⟩ := FileTree.write_eq_ok_iff.1 written
      rw [FileTree.find?_put_of_ne_nil _ (FileTree.ne_nil_of_find? file)] at stored
      by_cases here : l = m
      · subst here
        refine .inr ⟨?_, same.locate.1 leads⟩
        obtain before | ⟨before, -⟩ := deeper l
        · rw [← before]
          exact FileTree.find?_of_not_isThere missing leads
        · exact before
      · rw [if_neg here] at stored
        exact .inl (deeper.file_iff.2 stored)

theorem read_eq_ok {path : String} {c : Configuration} (returned : (read cwd path t).value = .ok c) :
    ∃ bs v, t.statText cwd path = .ok (.file bs) ∧ Yaml.ofBytes bs = .ok v ∧
      c = (ofDocument path v).1 ∧ (read cwd path t).state = t := by
  rw [read] at returned ⊢
  cases stored : t.statText cwd path with
  | error e =>
      rw [stored] at returned
      cases returned
  | ok entry =>
      cases entry with
      | directory =>
          rw [stored] at returned
          cases returned
      | file bs =>
          cases parsed : Yaml.ofBytes bs with
          | error e =>
              simp only [stored, parsed] at returned
              cases returned
          | ok v =>
              simp only [stored, parsed] at returned ⊢
              exact ⟨bs, v, rfl, parsed, (Except.ok.inj returned).symm, trivial⟩

end ConfigurationFile

namespace Manager

open ConfigurationFile (Ensured ofDocument)

variable {m : Manager}

structure Started (h : Host) (argument : Option String) (t : FileTree) (m : Manager) (u : FileTree) :
    Prop where
  resolved : h.resolve t (Path.ofText (pathText argument h.configVariable)) {} = .ok m.path
  ensured : Ensured h.location m.path t u
  unchanged : t.isThere h.location m.path = true → u = t
  read : ∃ bs v, u.read h.location m.path = .ok bs ∧ Yaml.ofBytes bs = .ok v ∧
    m.config = (ofDocument m.path.text v).1

theorem resolve_of_start (returned : (start h argument t).value = .ok m) :
    h.resolve t (Path.ofText (pathText argument h.configVariable)) {} = .ok m.path := by
  rw [start, Action.get_bind] at returned
  obtain ⟨p, resolved, returned, -⟩ := Action.bind_eq_ok returned
  obtain ⟨⟨⟩, -, returned, -⟩ := Action.bind_eq_ok returned
  obtain ⟨c, -, returned, -⟩ := Action.bind_eq_ok returned
  cases returned
  exact resolved

theorem started (standing : h.Standing) (returned : (start h argument t).value = .ok m) :
    Started h argument t m (start h argument t).state := by
  have resolved := resolve_of_start returned
  have full := standing.resolve (Path.named_ofText _) resolved
  rw [start, Action.get_bind] at returned ⊢
  obtain ⟨p, found, returned, state⟩ := Action.bind_eq_ok returned
  obtain ⟨⟨⟩, made, returned, state'⟩ := Action.bind_eq_ok returned
  obtain ⟨c, loaded, returned, state''⟩ := Action.bind_eq_ok returned
  cases returned
  rw [state, state', state'']
  have ensured := ConfigurationFile.ensured_of_ok made
  rw [ConfigurationFile.load_of_isThere ensured.isThere] at loaded ⊢
  obtain ⟨bs, v, stored, parsed, config, kept⟩ := ConfigurationFile.read_eq_ok loaded
  rw [Action.pure_apply, kept]
  refine ⟨resolved, ensured, ?_, bs, v, FileTree.read_of_statText full stored, parsed, config⟩
  intro there
  exact congrArg Result.state (ConfigurationFile.ensure_of_isThere full.absolute there)

theorem unstarted_unpublished : (⟨t, none⟩ : ManagerSite).manager = none :=
  rfl

/-- The text of the path that is asked for: the argument, else the environment, else the default;
empty texts do not count. -/
inductive Asked : (argument environment : Option String) → String → Prop
  | argument {environment : Option String} {s : String} (named : s ≠ "") :
      Asked (some s) environment s
  | environment {argument : Option String} {s : String} (unnamed : ∀ a ∈ argument, a = "")
      (named : s ≠ "") : Asked argument (some s) s
  | default {argument environment : Option String} (unnamed : ∀ a ∈ argument, a = "")
      (unset : ∀ e ∈ environment, e = "") : Asked argument environment "wifimigrate.yaml"

theorem asked_pathText (argument environment : Option String) :
    Asked argument environment (pathText argument environment) := by
  have named {given : Option String} {s : String} (kept : given.filter (· != "") = some s) :
      given = some s ∧ s ≠ "" := by
    simpa [Option.filter_eq_some_iff] using kept
  have unnamed {given : Option String} (dropped : given.filter (· != "") = none) :
      ∀ s ∈ given, s = "" := by
    simpa [Option.filter_eq_none_iff] using dropped
  rw [pathText]
  split
  · next s kept =>
      obtain ⟨rfl, nonempty⟩ := named kept
      exact .argument nonempty
  · next dropped =>
      split
      · next s kept =>
          obtain ⟨rfl, nonempty⟩ := named kept
          exact .environment (unnamed dropped) nonempty
      · next unset => exact .default (unnamed dropped) (unnamed unset)

def Resolved (h : Host) (argument : Option String) (t : FileTree) (p : Path) : Prop :=
  ∃ s, Asked argument h.configVariable s ∧ h.resolve t (Path.ofText s) {} = .ok p

structure Attempt where
  host : Host
  argument : Option String
  change : FileTree → FileTree

structure Construction where
  host : Host
  argument : Option String
  site : ManagerSite
  result : Result ManagerSite Fault Manager

def Attempt.construction (a : Attempt) (site : ManagerSite) : Construction where
  host := a.host
  argument := a.argument
  site := { site with tree := a.change site.tree }
  result := construct a.host a.argument { site with tree := a.change site.tree }

def constructions : ManagerSite → List Attempt → List Construction
  | _, [] => []
  | site, a :: rest =>
      a.construction site :: constructions (a.construction site).result.state rest

/-- Two calls with the same outcome, though an instance that is not initialised may differ. -/
structure Alike (r s : Result ManagerSite Fault Manager) : Prop where
  value : r.value = s.value
  tree : r.state.tree = s.state.tree
  manager : r.state.manager = s.state.manager
  journal : r.journal = s.journal

def Unfinished (site : ManagerSite) : Prop :=
  ∃ i, site.published = some i ∧ i.initialized = false

namespace Construction

/-- The construction goes as if no instance had been published before it. -/
def Fresh (c : Construction) : Prop :=
  Alike c.result (construct c.host c.argument ⟨c.site.tree, none⟩)

def Returns (m : Manager) (c : Construction) : Prop :=
  c.site.manager = some m ∧ c.result = ⟨.ok m, c.site, []⟩

end Construction

/-- Up to the first construction that returns, each goes as if it were the first one, though it finds
what the one before has left; that one settles the manager for all later ones. -/
inductive SettledByFirst : List Construction → Prop
  | nil : SettledByFirst []
  | raised {c : Construction} {rest : List Construction} {e : Fault} (fresh : c.Fresh)
      (refused : c.result.value = .error e) (unfinished : Unfinished c.result.state)
      (later : SettledByFirst rest) : SettledByFirst (c :: rest)
  | returned {c : Construction} {rest : List Construction} {m : Manager} (fresh : c.Fresh)
      (made : c.result.value = .ok m) (resolved : Resolved c.host c.argument c.site.tree m.path)
      (later : ∀ d ∈ rest, d.Returns m) : SettledByFirst (c :: rest)

variable {site : ManagerSite}

theorem Unfinished.unstarted (unfinished : Unfinished site) : site.manager = none := by
  obtain ⟨i, published, uninitialised⟩ := unfinished
  rw [ManagerSite.manager, published, Option.bind_some, Instance.manager?, dif_neg]
  simp [uninitialised]

theorem SetsUp.alike {s : Result FileTree Fault Manager} {r r' : Result ManagerSite Fault Manager}
    (first : SetsUp s r) (second : SetsUp s r') : Alike r r' := by
  have value := first.value.trans second.value.symm
  refine ⟨value, first.tree.trans second.tree.symm, ?_, first.journal.trans second.journal.symm⟩
  rw [ManagerSite.manager, ManagerSite.manager, first.published.manager, second.published.manager,
    value]

/-- One construction recovers whatever instance an earlier one has left unfinished. -/
theorem construct_alike (h : Host) (argument : Option String) (unstarted : site.manager = none) :
    Alike (construct h argument site) (construct h argument ⟨site.tree, none⟩) :=
  (construct_setsUp h argument unstarted).alike (construct_setsUp h argument unstarted_unpublished)

theorem construct_unfinished {e : Fault} (unstarted : site.manager = none)
    (refused : (construct h argument site).value = .error e) :
    Unfinished (construct h argument site).state := by
  have published := (construct_setsUp h argument unstarted).published
  generalize construct h argument site = r at published refused
  obtain ⟨value, ⟨tree, left⟩, journal⟩ := r
  cases refused
  cases published with
  | unfinished uninitialised => exact ⟨_, rfl, uninitialised⟩

theorem construct_returned (unstarted : site.manager = none)
    (returned : (construct h argument site).value = .ok m) :
    ∃ t, (construct h argument site).state = .running t m := by
  have setsUp := construct_setsUp h argument unstarted
  rw [setsUp.value] at returned
  generalize start h argument site.tree = s at setsUp returned
  obtain ⟨value, t, journal⟩ := s
  cases returned
  exact ⟨t, congrArg Result.state setsUp.returned⟩

theorem resolved_of_construct (unstarted : site.manager = none)
    (returned : (construct h argument site).value = .ok m) :
    Resolved h argument site.tree m.path := by
  rw [(construct_setsUp h argument unstarted).value] at returned
  exact ⟨_, asked_pathText argument h.configVariable, resolve_of_start returned⟩

theorem returns_of_running (attempts : List Attempt) (t : FileTree) (m : Manager) :
    ∀ c ∈ constructions (.running t m) attempts, c.Returns m := by
  induction attempts generalizing t with
  | nil => simp [constructions]
  | cons a rest ih => exact List.forall_mem_cons.2 ⟨⟨rfl, rfl⟩, ih (a.change t)⟩

theorem settledByFirst_of_unstarted (attempts : List Attempt) (unstarted : site.manager = none) :
    SettledByFirst (constructions site attempts) := by
  -- A construction that raises leaves an unfinished instance, and so a site like the one it found.
  induction attempts generalizing site with
  | nil => exact .nil
  | cons a rest ih =>
      have unstarted : (a.construction site).site.manager = none := unstarted
      have fresh : (a.construction site).Fresh := construct_alike a.host a.argument unstarted
      rw [constructions]
      cases value : (a.construction site).result.value with
      | error e =>
          have unfinished := construct_unfinished unstarted value
          exact .raised fresh value unfinished (ih unfinished.unstarted)
      | ok m =>
          refine .returned fresh value (resolved_of_construct unstarted value) ?_
          obtain ⟨t, state⟩ := construct_returned unstarted value
          have running : (a.construction site).result.state = .running t m := state
          rw [running]
          exact returns_of_running rest t m

theorem constructions_settledByFirst (attempts : List Attempt) (t : FileTree) :
    SettledByFirst (constructions ⟨t, none⟩ attempts) :=
  settledByFirst_of_unstarted attempts rfl

theorem resolve_again (resolved : h.resolve t q {} = .ok p)
    (there : u.isThere h.location p = true)
    (same : t.isThere h.location p = true → u = t) : h.resolve u q {} = .ok p := by
  rw [Host.resolve] at resolved ⊢
  cases expanded : h.expand q with
  | error e =>
      rw [expanded] at resolved
      cases resolved
  | ok q =>
      simp only [expanded, Bool.false_and, Bool.false_eq_true, if_false] at resolved ⊢
      split at resolved
      · next absolute => rw [if_pos absolute, resolved]
      · next relative =>
          rw [if_neg relative]
          split at resolved
          · cases resolved
            rw [if_pos there]
          · next working =>
              split at resolved
              · next project =>
                  cases resolved
                  -- the working directory still has no such file: nothing was made
                  rw [same project, if_neg working, if_pos project]
              · cases resolved
                rw [if_pos there]

/-- A file stands at the path of the manager. It is the only one that is new, and no other one has
changed; and another start over these files gives the same manager and changes nothing. -/
structure Stable (h : Host) (argument : Option String) (t : FileTree) (m : Manager) (u : FileTree) :
    Prop where
  there : ∃ bs, u.read h.location m.path = .ok bs
  kept : ∀ l bs, t.find? l = some (.file bs) → u.find? l = some (.file bs)
  created : ∀ l bs, u.find? l = some (.file bs) →
    t.find? l = some (.file bs) ∨ t.find? l = none ∧ u.locate h.location m.path = .ok l
  again : ∃ journal, construct h argument ⟨u, none⟩ = ⟨.ok m, .running u m, journal⟩

theorem Started.start_again (standing : h.Standing) (started : Started h argument t m u) :
    ∃ journal, start h argument u = ⟨.ok m, u, journal⟩ := by
  obtain ⟨bs, v, stored, parsed, config⟩ := started.read
  have full := standing.resolve (Path.named_ofText _) started.resolved
  have there := started.ensured.isThere
  have resolved := resolve_again started.resolved there started.unchanged
  rw [start_of_load resolved (ConfigurationFile.ensure_of_isThere full.absolute there)
    (ConfigurationFile.load_of_ok full stored parsed), ← config]
  exact ⟨_, rfl⟩

theorem construct_stable (standing : h.Standing)
    (returned : (construct h argument ⟨t, none⟩).value = .ok m) :
    Stable h argument t m (construct h argument ⟨t, none⟩).state.tree := by
  have setsUp := construct_setsUp h argument (unstarted_unpublished (t := t))
  rw [setsUp.value] at returned
  rw [setsUp.tree]
  have started := started standing returned
  obtain ⟨bs, -, stored, -⟩ := started.read
  obtain ⟨journal, again⟩ := started.start_again standing
  refine ⟨⟨bs, stored⟩, fun l bs => started.ensured.kept, fun l bs => started.ensured.created,
    journal, ?_⟩
  have setsUp := construct_setsUp h argument
    (unstarted_unpublished (t := (start h argument t).state))
  rw [again] at setsUp
  exact setsUp.returned

def detour : Path :=
  ⟨.slash, ["w", "x", "..", "c"]⟩

def detourTree : FileTree :=
  ⟨[(["w"], .directory), (["w", "x"], .directory),
    (["w", "c"], .file (ConfigurationFile.bytes {}))]⟩

theorem full_detour : detour.Full := by
  refine ⟨rfl, ?_⟩
  simp [detour, Path.Named, Path.IsName]

theorem construct_detour :
    construct illHost (some "x/../c") ⟨⟨[(["w"], .directory)]⟩, none⟩ =
      ⟨.ok ⟨detour, {}⟩, .running detourTree ⟨detour, {}⟩, []⟩ := by
  have found : illHost.resolve ⟨[(["w"], .directory)]⟩
      (Path.ofText (pathText (some "x/../c") illHost.configVariable)) {} = .ok detour := by
    have named : Path.ofText (pathText (some "x/../c") illHost.configVariable) =
        ⟨.relative, ["x", "..", "c"]⟩ := by rfl
    have expanded : illHost.expand ⟨.relative, ["x", "..", "c"]⟩ =
        .ok ⟨.relative, ["x", "..", "c"]⟩ := by simp [Host.expand]
    rw [named, Host.resolve, expanded]
    rfl
  have made : ConfigurationFile.ensure illHost.location detour ⟨[(["w"], .directory)]⟩ =
      ⟨.ok (), detourTree, []⟩ := by rfl
  have stored : detourTree.read illHost.location detour = .ok (ConfigurationFile.bytes {}) := by rfl
  have loaded := ConfigurationFile.load_of_inverted full_detour stored
    ConfigurationFile.inverted_defaults
  have setsUp := construct_setsUp illHost (some "x/../c")
    (unstarted_unpublished (t := ⟨[(["w"], .directory)]⟩))
  rw [start_of_load found made loaded] at setsUp
  exact setsUp.returned

theorem construct_stable_detour :
    illHost.Standing ∧
      Stable illHost (some "x/../c") ⟨[(["w"], .directory)]⟩ ⟨detour, {}⟩
        (construct illHost (some "x/../c") ⟨⟨[(["w"], .directory)]⟩, none⟩).state.tree := by
  have returned := congrArg Result.value construct_detour
  exact ⟨illHost_standing, construct_stable illHost_standing returned⟩

end Manager

end Handover
