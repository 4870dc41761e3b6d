import Handover.Action
import Handover.Configuration.Schema
import Handover.Yaml.Document
import Handover.Yaml.Printer.Document

namespace Handover.ConfigurationFile

def bytes (c : Configuration) : Bytes :=
  Text.Utf8.encode (String.ofList (Yaml.Printer.document
    (c.sections.map fun e => (.text e.1, e.2))))

/-- The configuration in a document; a document without contents, or of another shape, stands for the
defaults and is warned of. -/
def ofDocument (path : String) (v : Value) : Configuration × List Event :=
  if v.truthy then
    match Configuration.ofValue v with
    | .ok c => (c, [])
    | .error _ =>
        ({}, [.logged .warning
          s!"Failed to parse config from {path}, using defaults: [TypeError]"])
  else ({}, [.logged .warning s!"Empty config file at {path}, using defaults"])

def read (cwd : Location) (path : String) : Action FileTree Fault Configuration :=
  fun t =>
    match t.statText cwd path with
    | .error _ => ⟨.error (.configMissing path), t, []⟩
    | .ok .directory => ⟨.error (.file .isDirectory), t, []⟩
    | .ok (.file bs) =>
        match Yaml.ofBytes bs with
        | .error e => ⟨.error (.document e), t, []⟩
        | .ok v =>
            let (c, journal) := ofDocument path v
            ⟨.ok c, t, journal⟩

def write (cwd : Location) (path : Path) (c : Configuration) : Action FileTree Fault Unit :=
  fun t =>
    match t.write cwd path (bytes c) with
    | .ok t => ⟨.ok (), t, []⟩
    | .error e => ⟨.error (.file e), t, []⟩

def ensureParent (cwd : Location) (path : Path) : Action FileTree Fault Unit :=
  fun t =>
    match t.ensureDirectory cwd path.parent with
    | (t, .ok ()) => ⟨.ok (), t, []⟩
    | (t, .error e) => ⟨.error (.file e), t, []⟩

def ensure (cwd : Location) (path : Path) : Action FileTree Fault Unit := do
  ensureParent cwd path
  let t ← Action.get
  if t.isThere cwd path then pure () else write cwd path {}

def load (cwd : Location) (path : Path) : Action FileTree Fault Configuration := do
  let t ← Action.get
  if t.isThere cwd path then read cwd path.text
  else do
    ensure cwd path
    pure {}

end Handover.ConfigurationFile
