import Handover.Record.AccessPoint
import Handover.Record.Network
import Handover.Source
import Handover.Value.Order
import Handover.Yaml.Document

namespace Handover

/-- A legacy store in a file. Its document is read once and kept; its config is handed over once, and
only then may a commit delete the file. -/
structure LegacyStore where
  path : Path
  cache : Option (List (Value × Value)) := none
  taken : Bool := false

structure StoreSite where
  store : LegacyStore
  tree : FileTree

namespace LegacyStore

def entries (path : String) : Value → Except Fault (List (Value × Value))
  | .null => .ok []
  | .map es => .ok es
  | v => .error (.store path (.notMapping v.typeName))

def refused (e : Option RecordFault) : StoreFault :=
  .invalidRecord e

def recordOf (ofEntries : List (Text × Value) → Except RecordFault α) :
    Value → Except StoreFault α
  | .map es =>
      match Value.textEntries? es with
      | none => .error (refused none)
      | some es =>
          match ofEntries es with
          | .ok r => .ok r
          | .error e => .error (refused (some e))
  | _ => .error (refused none)

def networkRecords : List Value → Except StoreFault (List NetworkRecord)
  | [] => .ok []
  | v :: rest =>
      match recordOf NetworkRecord.ofEntries v with
      | .error e => .error e
      | .ok r =>
          match networkRecords rest with
          | .ok rs => .ok (r :: rs)
          | .error e => .error e

def networks (v : Value) : Except StoreFault (List NetworkRecord) :=
  if v.truthy then
    match v with
    | .list items => networkRecords items
    | _ => .error (refused none)
  else .ok []

def savedNetworks (es : List (Value × Value)) : Except StoreFault (Option (List NetworkRecord)) :=
  match Value.field? "networks" es with
  | none => .ok none
  | some v =>
      match networks v with
      | .ok rs => .ok (some rs)
      | .error e => .error e

def accessPoint (es : List (Value × Value)) : Except StoreFault (Option AccessPointRecord) :=
  match Value.field? "softap" es with
  | none => .ok none
  | some .null => .ok none
  | some v =>
      match recordOf AccessPointRecord.ofEntries v with
      | .ok r => .ok (some r)
      | .error e => .error e

def config (es : List (Value × Value)) : Except StoreFault ConfigSnapshot :=
  match savedNetworks es with
  | .error e => .error e
  | .ok savedNetworks =>
      match accessPoint es with
      | .ok accessPoint => .ok { savedNetworks, accessPoint }
      | .error e => .error e

def namesSetting : Value → Bool
  | .text (.proper s) => (Setting.ofName? s).isSome
  | _ => false

def setAll : SettingsSnapshot → List (Value × Value) → Except Fault SettingsSnapshot
  | s, [] => .ok s
  | s, (.text (.proper name), v) :: rest =>
      match Setting.ofName? name with
      | none => setAll s rest
      | some setting =>
          match s.set setting v with
          | .ok s => setAll s rest
          | .error e => .error (.argument e)
  | s, _ :: rest => setAll s rest

/-- The settings that a store holds of its own. Unknown keys are listed in order, if they have one and
can be shown. -/
def settingsOf (path : String) : Value → Except Fault SettingsSnapshot
  | .map es =>
      match (es.map Prod.fst).filter fun k => !namesSetting k with
      | [] => setAll {} es
      | unknown =>
          match Value.sorted? unknown with
          | none => .error (.shape .mismatch)
          | some names =>
              if names.all Value.isShown then
                .error (.store path (.unknownSettings (names.map Value.quoted)))
              else .error (.document .unshown)
  | v => .error (.store path (.settingsNotMapping v.typeName))

def settings (path : String) (es : List (Value × Value)) :
    Except Fault (Option SettingsSnapshot) :=
  match Value.field? "settings" es with
  | none => .ok none
  | some v =>
      if v.truthy then
        match settingsOf path v with
        | .ok s => .ok (some s)
        | .error e => .error e
      else .ok none

def parse (path : String) (bs : Bytes) : Except Fault (List (Value × Value)) :=
  match Yaml.ofBytes bs with
  | .ok v => entries path v
  | .error .malformed => .error (.store path .unreadable)
  | .error e => .error (.document e)

def read (cwd : Location) : Action StoreSite Fault (Option (List (Value × Value))) :=
  fun s =>
    match s.store.cache with
    | some es => ⟨.ok (some es), s, []⟩
    | none =>
        if s.tree.isThere cwd s.store.path then
          match s.tree.read cwd s.store.path with
          | .error e => ⟨.error (.file e), s, []⟩
          | .ok bs =>
              match parse s.store.path.text bs with
              | .error e => ⟨.error e, s, []⟩
              | .ok es => ⟨.ok (some es), { s with store := { s.store with cache := some es } }, []⟩
        else ⟨.ok none, s, []⟩

def loadConfig (cwd : Location) : Action StoreSite Fault (Option ConfigSnapshot) := do
  let site ← Action.get
  let path := site.store.path.text
  if site.store.taken then pure none
  else do
    match ← read cwd with
    | none => do
        Action.log .debug ("No legacy store at " ++ path)
        pure none
    | some es =>
        match config es with
        | .error e => Action.fail (.store path e)
        | .ok snapshot => do
            Action.modify fun s => { s with store := { s.store with taken := true } }
            Action.log .debug ("Loaded legacy store " ++ path)
            pure (some snapshot)

def ownSettings (cwd : Location) : Action StoreSite Fault (Option SettingsSnapshot) := do
  let site ← Action.get
  match ← read cwd with
  | none => pure none
  | some es => Action.lift (settings site.store.path.text es)

def commit (cwd : Location) : Action StoreSite Fault Unit :=
  fun s =>
    if s.store.taken && s.tree.isThere cwd s.store.path then
      match s.tree.unlink cwd s.store.path with
      | .error e => ⟨.error (.file e), s, []⟩
      | .ok tree =>
          ⟨.ok (), { s with tree },
            [.logged .info ("Migrated and removed legacy store " ++ s.store.path.text)]⟩
    else ⟨.ok (), s, []⟩

/-- A store as a source, within a larger state; where it holds no settings another source gives them. -/
def source {σ : Type} (cwd : Location) (part : σ → StoreSite) (put : StoreSite → σ → σ)
    (fallback : Source σ) : Source σ where
  loadConfig := (loadConfig cwd).zoom part put
  loadSettings environment := do
    match ← (ownSettings cwd).zoom part put with
    | some s => pure s
    | none => fallback.loadSettings environment
  commit := (commit cwd).zoom part put

end LegacyStore

end Handover
