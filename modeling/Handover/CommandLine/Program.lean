import Handover.CommandLine.Command
import Handover.CommandLine.Options

namespace Handover.CommandLine

inductive Command where
  | settings
  | exportFile
  | inspect
  | run
  deriving DecidableEq, Repr

namespace Command

def all : List Command :=
  [settings, exportFile, inspect, run]

def name : Command → String
  | settings => "settings"
  | exportFile => "export"
  | inspect => "inspect"
  | run => "run"

def ofName? (s : String) : Option Command :=
  all.find? fun c => c.name == s

def help : OptionSpec :=
  { name := "--help", takesValue := false }

def device : OptionSpec :=
  { name := "--device", letter := some 'd' }

def settingsFile : OptionSpec :=
  { name := "--settings-file" }

def specs : Command → List OptionSpec
  | settings => [device, settingsFile, help]
  | exportFile =>
      [{ name := "--store", letter := some 's' }, device, settingsFile,
        { name := "--output", letter := some 'o' }, help]
  | inspect => [help]
  | run => [help]

def takesPath : Command → Bool
  | settings => false
  | exportFile => false
  | inspect => true
  | run => true

def usage (c : Command) : String :=
  s!"cli {c.name} [OPTIONS]" ++ (if c.takesPath then " PATH" else "")

end Command

def programUsage : String := "cli [OPTIONS] COMMAND [ARGS]..."

def programSpecs : List OptionSpec :=
  [{ name := "--config", letter := some 'c' }, { name := "--debug", takesValue := false },
    Command.help]

def refuse (usage command : String) (e : UsageFault) : Action σ Ending α := do
  printAll (["Usage: " ++ usage, s!"Try '{command} --help' for help.", ""] ++
    Console.lines ("Error: " ++ e.message))
  Action.fail (.exit 2)

def checkFile (cwd : Location) (t : FileTree) (parameter file : String) : Except UsageFault Unit :=
  match t.statText cwd file with
  | .error _ => .error (.noSuchFile parameter file)
  | .ok .directory => .error (.directory parameter file)
  | .ok (.file _) => .ok ()

structure Parameters where
  given : Given
  path : String := ""

def pathParameter (cwd : Location) (t : FileTree) : List String →
    Except UsageFault (String × List String)
  | [] => .error (.missingArgument "PATH")
  | file :: rest =>
      match checkFile cwd t "PATH" file with
      | .ok () => .ok (file, rest)
      | .error e => .error e

def parameters (c : Command) (cwd : Location) (t : FileTree) (args : List String) :
    Except UsageFault Parameters := do
  let given ← OptionSpec.parse c.specs true {} args
  if given.has Command.help.name then return { given }
  match given.value? Command.settingsFile.name with
  | some file => checkFile cwd t Command.settingsFile.name file
  | none => pure ()
  let (path, rest) ←
    if c.takesPath then pathParameter cwd t given.arguments else pure ("", given.arguments)
  if rest.isEmpty then return { given, path }
  else .error (.extraArguments rest)

def execute (c : Context) (config : Configuration) (command : Command) (p : Parameters) :
    Action FileTree Ending Unit :=
  let option (name : String) : Option String := p.given.value? name
  match command with
  | .settings => settings c config (option "--device") (option "--settings-file")
  | .exportFile =>
      exportTo c config (option "--store") (option "--device") (option "--settings-file")
        (option "--output")
  | .inspect => inspect c p.path
  | .run => run c p.path

def invoke (c : Context) (config : Configuration) (command : Command) (args : List String) :
    Action FileTree Ending Unit := do
  let t ← Action.get
  match parameters command c.host.location t args with
  | .error e => refuse command.usage s!"cli {command.name}" e
  | .ok p =>
      if p.given.has Command.help.name then Action.print ("Usage: " ++ command.usage)
      else execute c config command p

/-- The command that the first argument names. One that looks like an option is taken for one. -/
def commandOf (args : List String) : Except UsageFault (Command × List String) :=
  match args with
  | [] => .error .missingCommand
  | name :: rest =>
      match Command.ofName? name with
      | some command => .ok (command, rest)
      | none =>
          match OptionSpec.parse programSpecs false {} args with
          | .error e => .error e
          | .ok _ =>
              .error (.noSuchCommand name
                (Text.Similarity.closeMatches name (Command.all.map Command.name)))

def onFiles (x : Action FileTree Ending α) : Action ManagerSite Ending α :=
  x.zoom ManagerSite.tree fun t s => { s with tree := t }

def start (c : Context) (given : Given) (command : Command) (args : List String) :
    Action ManagerSite Ending Unit := do
  let manager ← (Manager.construct c.host (given.value? "--config")).mapError .raised
  let debug := given.has "--debug" || manager.config.logging.debug.truthy
  shown debug (onFiles (invoke c manager.config command args))

def program (c : Context) (args : List String) : Action ManagerSite Ending Unit :=
  match OptionSpec.parse programSpecs false {} args with
  | .error e => refuse programUsage "cli" e
  | .ok given =>
      if given.has Command.help.name then Action.print ("Usage: " ++ programUsage)
      else
        match commandOf given.arguments with
        | .error e => refuse programUsage "cli" e
        | .ok (command, rest) => start c given command rest

def exitCode : Except Ending Unit → Nat
  | .ok () => 0
  | .error (.exit code) => code
  | .error (.raised _) => 1

end Handover.CommandLine
