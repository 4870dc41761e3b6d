import Handover.Action
import Handover.Console.Line
import Handover.Console.Markup
import Handover.Console.Table
import Handover.Fault
import Handover.Outcome

namespace Handover.CommandLine

inductive Ending where
  | exit (code : Nat)
  | raised (e : Fault)
  deriving DecidableEq, Repr

variable {σ ε : Type}

def printAll : List String → Action σ ε Unit
  | [] => pure ()
  | line :: rest => do
      Action.print line
      printAll rest

def say (markup : String) : Action σ ε Unit :=
  printAll (Console.lines (Console.Markup.plain markup))

def styled (style text : String) : String :=
  "[" ++ style ++ "]" ++ text ++ "[/]"

def escape (text : String) : String :=
  Console.Markup.escape text

/-- Text without a UTF-8 form cannot be printed. The program ends there: what is printed after it would
be held up behind it. -/
def unprintable : Action σ Ending α :=
  Action.fail (.raised .unprintable)

def tell (style label : String) (message : Text) : Action σ Ending Unit :=
  match message with
  | .proper s => say (styled style (label ++ escape s))
  | .ill _ _ => unprintable

def printTable (t : Console.Table) : Action σ ε Unit :=
  printAll t.lines

def cellText (text : String) : String :=
  Console.Markup.plain (escape text)

def flagText (b : Bool) : String :=
  if b then "on" else "off"

def valueText? : Value → Option String
  | .null => some "unset"
  | .bool b => some (flagText b)
  | v => v.plain.proper?.map cellText

def settingRow? (s : SettingsSnapshot) (x : Setting) : Option (List String) := do
  return [x.name, x.key, ← valueText? (s.get x), ← valueText? (({} : SettingsSnapshot).get x)]

def settingsTable? (s : SettingsSnapshot) : Option Console.Table := do
  return {
    title := "Wi-Fi settings"
    head := ["Setting", "Key", "Value", "Default"]
    body := ← Setting.all.mapM (settingRow? s) }

def showSettings : Option SettingsSnapshot → Action σ Ending Unit
  | none => say (styled "yellow" "No settings to migrate.")
  | some s =>
      match settingsTable? s with
      | some t => printTable t
      | none => unprintable

def networkRow (r : NetworkRecord) : List String :=
  [cellText r.ssid, r.security.label, flagText r.hidden, r.meteredOverride.label]

def networksTable (rs : List NetworkRecord) : Console.Table where
  title := s!"Saved networks ({rs.length})"
  head := ["SSID", "Security", "Hidden", "Metered"]
  body := rs.map networkRow

def nothing : String :=
  styled "dim" "nothing to migrate"

def showNetworks : Option (List NetworkRecord) → Action σ ε Unit
  | none => say ("Saved networks: " ++ nothing)
  | some rs => printTable (networksTable rs)

def ssidText (ssid : Option String) : String :=
  match ssid with
  | some s => if s = "" then "<default>" else s
  | none => "<default>"

def channelText (n : Nat) : String :=
  if n = 0 then "auto" else toString n

def accessPointLine (r : AccessPointRecord) : String :=
  "Soft AP: " ++ styled "cyan" (escape (ssidText r.ssid)) ++ " (" ++ r.security.label ++
    ", band " ++ r.band.label ++ ", channel " ++ channelText r.channel ++ ")"

def showAccessPoint : Option AccessPointRecord → Action σ ε Unit
  | none => say ("Soft AP: " ++ nothing)
  | some r => say (accessPointLine r)

def showConfig : Option ConfigSnapshot → Action σ ε Unit
  | none => say (styled "yellow" "No config store migration needed.")
  | some s => do
      showNetworks s.savedNetworks
      showAccessPoint s.accessPoint

def showErrors : List String → Action σ ε Unit
  | [] => pure ()
  | e :: rest => do
      say (styled "red" ("Skipped: " ++ escape e))
      showErrors rest

def showOutcome (o : Outcome) : Action σ Ending Unit := do
  showConfig o.config
  showSettings o.settings
  showErrors o.errors

def logText (debug : Bool) (level : Level) (text : String) : String :=
  if debug then level.label ++ " wifimigrate " ++ text else text

def onConsole (debug : Bool) : Event → List Event
  | .logged level text =>
      if debug || level ≠ .debug then (Console.lines (logText debug level text)).map .printed
      else []
  | .printed line => [.printed line]

def shown {α : Type} (debug : Bool) (x : Action σ ε α) : Action σ ε α :=
  fun s =>
    match x s with
    | ⟨a, s, journal⟩ => ⟨a, s, journal.flatMap (onConsole debug)⟩

end Handover.CommandLine
