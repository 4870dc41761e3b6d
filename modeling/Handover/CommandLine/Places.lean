import Handover.CommandLine.Program

/-!
The places that a run of the program may look at or write to, so that no others need be known.
-/

namespace Handover.CommandLine

def way (l : Location) : List String → List Location
  | [] => [l]
  | part :: rest => l :: way (if part = ".." then l.dropLast else l ++ [part]) rest

/-- The texts in an argument that may name a file: the whole, what follows an equals sign, and what
follows a letter. -/
def textsIn (arg : String) : List String :=
  [arg, String.ofList ((arg.toList.dropWhile (· != '=')).drop 1), String.ofList (arg.toList.drop 2)]

def withTemporary (p : Path) : List Path :=
  match TransferFile.temporary p with
  | .ok tmp => [p, tmp]
  | .error _ => [p]

def placesOf (h : Host) (p : Path) : List Location :=
  match h.expand p with
  | .error _ => []
  | .ok p =>
      (withTemporary (h.working.join p) ++ withTemporary (h.project.join p)).flatMap fun q =>
        way [] q.parts

def namedPlaces (h : Host) (args : List String) : List Location :=
  ((args.flatMap textsIn ++ [Manager.pathText none h.configVariable]).map Path.ofText).flatMap
    (placesOf h)

def configArgument (args : List String) : Option String :=
  match OptionSpec.parse programSpecs false {} args with
  | .ok given => given.value? "--config"
  | .error _ => none

def configuredPlaces (h : Host) (c : Configuration) : List Location :=
  match Host.pathOf c.legacyStore.path, Host.pathOf c.transfer.outputDirectory,
    Host.pathOf c.transfer.fileName with
  | .ok store, .ok directory, .ok name => [store, directory.join name].flatMap (placesOf h)
  | _, _, _ => []

end Handover.CommandLine
