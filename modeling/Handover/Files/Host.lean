import Handover.Fault

namespace Handover

/-- The working, project and home directories, all absolute, and the path of the configuration file
that the environment names. -/
structure Host where
  working : Path
  project : Path
  home : Path
  configVariable : Option String := none
  deriving DecidableEq, Repr

namespace Host

def location (h : Host) : Location :=
  h.working.parts

/-- A path whose first part is a tilde starts at the home directory; other users are not known. -/
def expand (h : Host) (p : Path) : Except Fault Path :=
  match p.root, p.parts with
  | .relative, first :: rest =>
      if first = "~" then .ok { h.home with parts := h.home.parts ++ rest }
      else if first.startsWith "~" then .error .unknownUser
      else .ok p
  | _, _ => .ok p

structure Lookup where
  createIfMissing : Bool := false
  mustExist : Bool := false
  deriving DecidableEq, Repr

/-- A relative path is looked up in the working directory, then in the project; one that is to be made
belongs in the working directory. -/
def resolve (h : Host) (t : FileTree) (p : Path) (how : Lookup) : Except Fault Path :=
  match h.expand p with
  | .error e => .error e
  | .ok p =>
      if p.isAbsolute then
        if how.mustExist && !t.isThere h.location p then .error (.pathMissing p.text) else .ok p
      else
        let working := h.working.join p
        let project := h.project.join p
        if how.createIfMissing then .ok working
        else if t.isThere h.location working then .ok working
        else if t.isThere h.location project then .ok project
        else if how.mustExist then .error (.pathMissingEverywhere working.text project.text)
        else .ok working

/-- The path that a value gives; only text does. One without a UTF-8 form is the name of no file. -/
def pathOf : Value → Except Fault Path
  | .text (.proper s) => .ok (Path.ofText s)
  | .text (.ill codes _) => .error (.encoding (.ofCodes codes))
  | _ => .error (.shape .mismatch)

end Host

end Handover
