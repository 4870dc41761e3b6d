import Handover.Text.Quoted
import Handover.Text.Similarity

namespace Handover.CommandLine

structure OptionSpec where
  name : String
  letter : Option Char := none
  takesValue : Bool := true
  deriving DecidableEq, Repr

inductive UsageFault where
  | noSuchOption (name : String) (similar : List String)
  | needsArgument (name : String)
  | takesNoValue (name : String)
  | missingArgument (name : String)
  | noSuchFile (parameter file : String)
  | directory (parameter file : String)
  | extraArguments (arguments : List String)
  | noSuchCommand (name : String) (similar : List String)
  | missingCommand
  deriving DecidableEq, Repr

namespace UsageFault

def listed (separator : String) : List String → String
  | [] => ""
  | [s] => s
  | s :: rest => s ++ separator ++ listed separator rest

def quoted (s : String) : String :=
  Text.Quoted.text s

def suggestion : List String → String
  | [] => ""
  | [s] => " Did you mean " ++ quoted s ++ "?"
  | several => " (Did you mean one of: " ++ listed ", " (several.map quoted) ++ "?)"

def message : UsageFault → String
  | noSuchOption name similar => "No such option " ++ quoted name ++ "." ++ suggestion similar
  | needsArgument name => "Option " ++ quoted name ++ " requires an argument."
  | takesNoValue name => "Option " ++ quoted name ++ " does not take a value."
  | missingArgument name => "Missing argument " ++ quoted name ++ "."
  | noSuchFile parameter file =>
      "Invalid value for " ++ quoted parameter ++ ": File " ++ quoted file ++ " does not exist."
  | directory parameter file =>
      "Invalid value for " ++ quoted parameter ++ ": File " ++ quoted file ++ " is a directory."
  | extraArguments [argument] => "Got unexpected extra argument (" ++ argument ++ ")"
  | extraArguments several => "Got unexpected extra arguments (" ++ listed " " several ++ ")"
  | noSuchCommand name similar => "No such command " ++ quoted name ++ "." ++ suggestion similar
  | missingCommand => "Missing command."

end UsageFault

structure Given where
  options : List (String × String) := []
  arguments : List String := []
  deriving DecidableEq, Repr

namespace Given

def value? (g : Given) (name : String) : Option String :=
  g.options.reverse.lookup name

def has (g : Given) (name : String) : Bool :=
  (g.value? name).isSome

end Given

namespace OptionSpec

/-- What a cluster of letters after one hyphen asks for: flags, then perhaps an option with the rest of
the cluster as its value, or one whose value is still to come. -/
structure Cluster where
  options : List (String × String) := []
  open? : Option (OptionSpec × String) := none

def cluster (specs : List OptionSpec) : List Char → Except UsageFault Cluster
  | [] => .ok {}
  | c :: rest =>
      match specs.find? fun s => s.letter == some c with
      | none => .error (.noSuchOption (String.ofList ['-', c]) [])
      | some s =>
          if s.takesValue then
            if rest.isEmpty then .ok { open? := some (s, String.ofList ['-', c]) }
            else .ok { options := [(s.name, String.ofList rest)] }
          else
            match cluster specs rest with
            | .ok more => .ok { more with options := (s.name, "") :: more.options }
            | .error e => .error e

def long (specs : List OptionSpec) (arg : String) : Except UsageFault Cluster :=
  let cs := arg.toList
  let name := String.ofList (cs.takeWhile (· != '='))
  let attached :=
    if cs.contains '=' then some (String.ofList ((cs.dropWhile (· != '=')).drop 1)) else none
  match specs.find? fun s => s.name == name with
  | none =>
      .error (.noSuchOption name (Text.Similarity.closeMatches name (specs.map OptionSpec.name)))
  | some s =>
      match attached, s.takesValue with
      | some v, true => .ok { options := [(name, v)] }
      | some _, false => .error (.takesNoValue name)
      | none, true => .ok { open? := some (s, name) }
      | none, false => .ok { options := [(name, "")] }

def read (specs : List OptionSpec) (arg : String) : Except UsageFault Cluster :=
  match long specs arg with
  | .ok c => .ok c
  | .error (.noSuchOption name similar) =>
      if arg.startsWith "--" then .error (.noSuchOption name similar)
      else cluster specs (arg.toList.drop 1)
  | .error e => .error e

/-- Sorts arguments from options. With `mixed` options may follow arguments; two hyphens end them. -/
def parse (specs : List OptionSpec) (mixed : Bool) : Given → List String → Except UsageFault Given
  | g, [] => .ok g
  | g, arg :: rest =>
      if arg == "--" then .ok { g with arguments := g.arguments ++ rest }
      else if arg.startsWith "-" && arg != "-" then
        match read specs arg with
        | .error e => .error e
        | .ok c =>
            let g := { g with options := g.options ++ c.options }
            match c.open? with
            | none => parse specs mixed g rest
            | some (s, shown) =>
                match rest with
                | [] => .error (.needsArgument shown)
                | v :: rest => parse specs mixed { g with options := g.options ++ [(s.name, v)] } rest
      else if mixed then parse specs mixed { g with arguments := g.arguments ++ [arg] } rest
      else .ok { g with arguments := g.arguments ++ arg :: rest }

end OptionSpec

end Handover.CommandLine
