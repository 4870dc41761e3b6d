import Handover.CommandLine.Places

/-!
Runs the program on the files of the machine. No device is linked: reading live settings from one
fails. The files that a run may touch are read beforehand, and what the run changed is written
afterwards.
-/

namespace Handover.CommandLine

def placeText (l : Location) : String :=
  Path.text ⟨.slash, l⟩

/-- What is at a location whose parent is a directory: only a directory is of the wrong type there. -/
def entryAt (l : Location) : IO (Option Entry) := do
  try
    return some (.file (← IO.FS.readBinFile (placeText l)).toList)
  catch
    | .inappropriateType .. => return some .directory
    | _ => return none

def treeOf (ls : List Location) : IO FileTree := do
  let mut t : FileTree := {}
  for l in ls do
    if t.find? l.dropLast = some .directory then
      if let some e ← entryAt l then t := t.put l e
  return t

/-- Writes what is new or different, then removes the files that are gone. -/
def settle (before after : FileTree) : IO Unit := do
  for (l, e) in after.entries do
    if before.find? l ≠ some e then
      match e with
      | .directory => IO.FS.createDirAll (placeText l)
      | .file content => IO.FS.writeBinFile (placeText l) ⟨content.toArray⟩
  for (l, _) in before.entries do
    if after.find? l = none then IO.FS.removeFile (placeText l)

def emit : Event → IO Unit
  | .printed line => IO.println line
  | .logged .debug _ => pure ()
  | .logged _ text => IO.eprintln text

def machine : IO Host := do
  let working := Path.ofText (← IO.currentDir).toString
  return {
    working
    project := Path.ofText (← IO.appDir).toString
    home := Path.ofText ((← IO.getEnv "HOME").getD "/")
    configVariable := ← IO.getEnv "WIFIMIGRATE_CONFIG" }

def absent : Device where
  connect _ := .error "no device"
  shell _ _ := .error "no device"

def runOn (h : Host) (args : List String) : IO UInt32 := do
  let named := namedPlaces h args
  let configuration : Configuration :=
    match (Manager.construct h (configArgument args) ⟨← treeOf named, none⟩).value with
    | .ok m => m.config
    | .error _ => {}
  let before ← treeOf (named ++ configuredPlaces h configuration)
  let r := program ⟨h, absent⟩ args ⟨before, none⟩
  settle before r.state.tree
  r.journal.forM emit
  if let .error (.raised e) := r.value then
    IO.eprintln (e.message.proper?.getD e.message.quoted)
  return (exitCode r.value).toUInt32

end Handover.CommandLine

def main (args : List String) : IO UInt32 := do
  Handover.CommandLine.runOn (← Handover.CommandLine.machine) args
