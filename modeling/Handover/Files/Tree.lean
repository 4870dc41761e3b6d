import Handover.Bytes
import Handover.Files.Path
import Handover.Lookup

namespace Handover

/-- Where a file or directory is: the names from the root down. -/
abbrev Location := List String

inductive Entry where
  | file (content : Bytes)
  | directory
  deriving DecidableEq, Repr

inductive FileFault where
  | notFound
  | isDirectory
  | notDirectory
  | exists
  | busy
  deriving DecidableEq, Repr

/-- The entries below the root. A location counts with its first entry. -/
structure FileTree where
  entries : List (Location × Entry) := []
  deriving DecidableEq, Repr

namespace FileTree

def find? (t : FileTree) (l : Location) : Option Entry :=
  if l = [] then some .directory else t.entries.lookup l

def remove (t : FileTree) (l : Location) : FileTree :=
  ⟨t.entries.filter fun e => e.1 ≠ l⟩

def put (t : FileTree) (l : Location) (e : Entry) : FileTree :=
  ⟨(t.remove l).entries ++ [(l, e)]⟩

theorem find?_remove (t : FileTree) (l m : Location) (h : l ≠ []) :
    (t.remove m).find? l = if l = m then none else t.find? l := by
  simp only [find?, remove, h, if_false, lookup_filter]

theorem find?_put (t : FileTree) (l m : Location) (e : Entry) (h : l ≠ []) :
    (t.put m e).find? l = if l = m then some e else t.find? l := by
  simp only [find?, put, remove, h, if_false, List.lookup_append, lookup_filter, lookup_cons,
    List.lookup_nil]
  by_cases hl : l = m
  · simp [hl]
  · simp [hl]

/-- Steps down from a location, part by part; each step leaves a directory. -/
def walk (t : FileTree) : Location → List String → Except FileFault Location
  | l, [] => .ok l
  | l, part :: rest =>
      match t.find? l with
      | none => .error .notFound
      | some (.file _) => .error .notDirectory
      | some .directory => t.walk (if part = ".." then l.dropLast else l ++ [part]) rest

/-- The location a path leads to from a working directory; nothing need be there. -/
def locate (t : FileTree) (cwd : Location) (p : Path) : Except FileFault Location :=
  t.walk (if p.isAbsolute then [] else cwd) p.parts

def stat (t : FileTree) (cwd : Location) (p : Path) : Except FileFault Entry :=
  match t.locate cwd p with
  | .error e => .error e
  | .ok l =>
      match t.find? l with
      | none => .error .notFound
      | some e => .ok e

def isThere (t : FileTree) (cwd : Location) (p : Path) : Bool :=
  match t.stat cwd p with
  | .ok _ => true
  | .error _ => false

def statText (t : FileTree) (cwd : Location) (s : String) : Except FileFault Entry :=
  if s = "" then .error .notFound
  else
    match t.stat cwd (Path.ofText s) with
    | .ok (.file content) =>
        if Path.namesDirectory s then .error .notDirectory else .ok (.file content)
    | r => r

def read (t : FileTree) (cwd : Location) (p : Path) : Except FileFault Bytes :=
  match t.stat cwd p with
  | .error e => .error e
  | .ok (.file content) => .ok content
  | .ok .directory => .error .isDirectory

def write (t : FileTree) (cwd : Location) (p : Path) (content : Bytes) :
    Except FileFault FileTree :=
  match t.locate cwd p with
  | .error e => .error e
  | .ok l =>
      match t.find? l with
      | some .directory => .error .isDirectory
      | _ => .ok (t.put l (.file content))

def unlink (t : FileTree) (cwd : Location) (p : Path) : Except FileFault FileTree :=
  match t.locate cwd p with
  | .error e => .error e
  | .ok l =>
      match t.find? l with
      | none => .error .notFound
      | some .directory => .error .isDirectory
      | some (.file _) => .ok (t.remove l)

def makeDirectory (t : FileTree) (cwd : Location) (p : Path) : Except FileFault FileTree :=
  match t.locate cwd p with
  | .error e => .error e
  | .ok l =>
      match t.find? l with
      | some _ => .error .exists
      | none => .ok (t.put l .directory)

def isDirectory (t : FileTree) (cwd : Location) (p : Path) : Bool :=
  match t.stat cwd p with
  | .ok .directory => true
  | _ => false

def ensureOne (t : FileTree) (cwd : Location) (p : Path) : Except FileFault FileTree :=
  match t.makeDirectory cwd p with
  | .ok t => .ok t
  | .error .notFound => .error .notFound
  | .error e => if t.isDirectory cwd p then .ok t else .error e

/-- Makes a directory and those above it. The tree comes back also when that fails half-way. -/
def ensureParts (t : FileTree) (cwd : Location) (root : Root) :
    (below : List String) → FileTree × Except FileFault Unit
  | [] =>
      match t.ensureOne cwd ⟨root, []⟩ with
      | .ok t => (t, .ok ())
      | .error e => (t, .error e)
  | last :: above =>
      match t.ensureOne cwd ⟨root, (last :: above).reverse⟩ with
      | .ok t => (t, .ok ())
      | .error .notFound =>
          match t.ensureParts cwd root above with
          | (t, .error e) => (t, .error e)
          | (t, .ok ()) =>
              match t.ensureOne cwd ⟨root, (last :: above).reverse⟩ with
              | .ok t => (t, .ok ())
              | .error e => (t, .error e)
      | .error e => (t, .error e)

def ensureDirectory (t : FileTree) (cwd : Location) (p : Path) :
    FileTree × Except FileFault Unit :=
  t.ensureParts cwd p.root p.parts.reverse

def rename (t : FileTree) (cwd : Location) (source target : Path) : Except FileFault FileTree :=
  match t.locate cwd source, t.locate cwd target with
  | .error e, _ => .error e
  | _, .error e => .error e
  | .ok l, .ok m =>
      match t.find? l with
      | none => .error .notFound
      | some e =>
          if target.name? = some ".." then .error .busy
          else
            match t.find? m with
            | some .directory => .error .isDirectory
            | _ => .ok ((t.remove l).put m e)

end FileTree

end Handover
