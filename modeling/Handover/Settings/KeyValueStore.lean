import Handover.Fault
import Handover.Lookup
import Handover.Settings.Provider

namespace Handover

structure KeyValueStore where
  entries : List (String × Text) := []
  deriving DecidableEq, Repr

namespace KeyValueStore

def get? (s : KeyValueStore) (key : String) : Option Text :=
  s.entries.lookup key

def erase (s : KeyValueStore) (key : String) : KeyValueStore :=
  ⟨s.entries.filter fun e => e.1 ≠ key⟩

def stored? : Value → Option Text
  | .null => none
  | .bool b => some (.proper (if b then "1" else "0"))
  | v => some v.plain

def put (s : KeyValueStore) (key : String) (v : Value) : KeyValueStore :=
  match stored? v with
  | none => s.erase key
  | some text => ⟨(key, text) :: (s.erase key).entries⟩

theorem get?_put (s : KeyValueStore) (k l : String) (v : Value) :
    (s.put k v).get? l = if l = k then stored? v else s.get? l := by
  unfold put
  cases h : stored? v with
  | none => simp only [get?, erase, lookup_filter]
  | some text =>
      simp only [get?, erase, lookup_cons, lookup_filter]
      split <;> rfl

def putAll (s : KeyValueStore) : List (String × Value) → KeyValueStore
  | [] => s
  | (k, v) :: rest => (s.put k v).putAll rest

/-- The entries of a mapping under keys of proper text; no setting has another key. -/
def textEntries : List (Value × Value) → List (String × Value)
  | [] => []
  | (.text (.proper k), v) :: rest => (k, v) :: textEntries rest
  | _ :: rest => textEntries rest

def ofMapping (entries : List (Value × Value)) : KeyValueStore :=
  ({} : KeyValueStore).putAll (textEntries entries)

def fullTypeName : Value → String
  | .date _ => "datetime.date"
  | .dateTime _ => "datetime.datetime"
  | v => v.typeName

/-- The settings in a document; whatever is empty holds none. Each value has to be stored as text, also
one under a key that is none. -/
def ofValue (v : Value) : Except Fault KeyValueStore :=
  if v.truthy then
    match v with
    | .map entries =>
        if entries.all fun e => e.2.isShown then .ok (ofMapping entries)
        else .error (.document .unshown)
    | v => .error (.shape (.noEntries (fullTypeName v)))
  else .ok {}

def provider : Provider KeyValueStore :=
  ⟨fun key s => ⟨.ok (s.get? key), s, []⟩⟩

def display (s : KeyValueStore) : String :=
  let keys := (s.entries.map Prod.fst).mergeSort fun a b => decide (a ≤ b)
  "<InMemorySettingsProvider keys=[" ++ joined ", " (keys.map Text.Quoted.text) ++ "]>"

end KeyValueStore

end Handover
