import Handover.Configuration.File
import Handover.Files.Host

namespace Handover

structure Manager where
  path : Path
  config : Configuration

/-- The instance behind the manager. It is published before it is set up. Where that fails, it keeps
what was set by then. -/
structure Instance where
  path : Option Path := none
  config : Option Configuration := none
  initialized : Bool := false
  complete : initialized = true → path.isSome = true ∧ config.isSome = true := by simp

namespace Instance

def begun (path : Path) : Instance :=
  { path := some path, config := some {} }

def ofManager (m : Manager) : Instance where
  path := some m.path
  config := some m.config
  initialized := true
  complete _ := ⟨rfl, rfl⟩

def manager? (i : Instance) : Option Manager :=
  if h : i.initialized = true then
    some ⟨i.path.get (i.complete h).1, i.config.get (i.complete h).2⟩
  else none

end Instance

structure ManagerSite where
  tree : FileTree
  published : Option Instance := none

def ManagerSite.manager (s : ManagerSite) : Option Manager :=
  s.published.bind Instance.manager?

namespace Manager

def defaultPath : String := "wifimigrate.yaml"

def pathText (argument environment : Option String) : String :=
  match argument.filter (· != "") with
  | some s => s
  | none =>
      match environment.filter (· != "") with
      | some s => s
      | none => defaultPath

def onTree (x : Action FileTree Fault α) : Action ManagerSite Fault α :=
  x.zoom ManagerSite.tree fun t s => { s with tree := t }

def publish (i : Instance) : Action ManagerSite Fault Unit :=
  Action.modify fun s => { s with published := some i }

def setUp (h : Host) (argument : Option String) : Action ManagerSite Fault Manager := do
  let site ← Action.get
  let path ← Action.lift
    (h.resolve site.tree (Path.ofText (pathText argument h.configVariable)) {})
  publish (.begun path)
  onTree (ConfigurationFile.ensure h.location path)
  let config ← onTree (ConfigurationFile.load h.location path)
  publish (.ofManager { path, config })
  pure { path, config }

/-- The manager in use. An instance that is not initialised is set up, also one that an earlier call
has left so. -/
def construct (h : Host) (argument : Option String) : Action ManagerSite Fault Manager := do
  let site ← Action.get
  if site.published.isNone then publish {}
  match site.manager with
  | some m => pure m
  | none => setUp h argument

def save (h : Host) (m : Manager) : Action ManagerSite Fault Unit :=
  onTree (ConfigurationFile.write h.location m.path m.config)

/-- Reads the file again; one that cannot be read leaves the configuration as it was. -/
def reload (h : Host) (m : Manager) : Action ManagerSite Fault Manager := do
  let config ← onTree (ConfigurationFile.load h.location m.path)
  publish (.ofManager { m with config })
  pure { m with config }

def display (m : Manager) : String :=
  s!"<ConfigManager path={m.path.text}>"

end Manager

end Handover
