import Handover.Record.Field
import Handover.Snapshot.Argument

namespace Handover

structure ConfigSnapshot where
  savedNetworks : Option (List NetworkRecord) := none
  accessPoint : Option AccessPointRecord := none
  deriving DecidableEq, Repr

def networkList (index : Nat) : List Value → Except InvalidArgument (List NetworkRecord)
  | [] => .ok []
  | .network r :: rest =>
      match networkList (index + 1) rest with
      | .ok rs => .ok (r :: rs)
      | .error e => .error e
  | v :: _ => .error (.networkOfType index v.typeName)

/-- The values in a sequence, if the value is one; text and bytes do not count as sequences. -/
def sequence? : Value → Option (List Value)
  | .list items => some items
  | .tuple items => some items
  | .sequence _ items => some items
  | .byteArray bs => some (bs.map fun b => .int b.toNat)
  | _ => none

def networksOf (v : Value) : Except InvalidArgument (List NetworkRecord) :=
  match v with
  | .null => .error .networksMissing
  | v =>
      match sequence? v with
      | some items => networkList 0 items
      | none => .error (.networksOfType v.typeName)

def accessPointOf : Value → Except InvalidArgument AccessPointRecord
  | .null => .error .accessPointMissing
  | .accessPoint r => .ok r
  | v => .error (.accessPointOfType v.typeName)

namespace ConfigSnapshot

def isEmpty (s : ConfigSnapshot) : Bool :=
  s.savedNetworks.isNone && s.accessPoint.isNone

def given (read : Value → Except InvalidArgument α) : Value → Except InvalidArgument (Option α)
  | .null => .ok none
  | v =>
      match read v with
      | .ok a => .ok (some a)
      | .error e => .error e

def make (networks accessPoint : Value) : Except InvalidArgument ConfigSnapshot :=
  match given networksOf networks with
  | .error e => .error e
  | .ok savedNetworks =>
      match given accessPointOf accessPoint with
      | .error e => .error e
      | .ok accessPoint => .ok { savedNetworks, accessPoint }

def fieldNames : List String := ["saved_networks", "ap_configuration"]

def ofEntries (entries : List (String × Value)) : Except EntryFault ConfigSnapshot :=
  match entries.find? fun e => !fieldNames.contains e.1 with
  | some (name, _) => .error (.unknown name)
  | none =>
      match make ((Field.last? "saved_networks" entries).getD .null)
          ((Field.last? "ap_configuration" entries).getD .null) with
      | .ok s => .ok s
      | .error e => .error (.refused e)

structure Builder where
  savedNetworks : Option (List NetworkRecord) := none
  accessPoint : Option AccessPointRecord := none
  deriving DecidableEq, Repr

namespace Builder

def setSavedNetworks (b : Builder) (v : Value) : Except InvalidArgument Builder :=
  match networksOf v with
  | .ok rs => .ok { b with savedNetworks := some rs }
  | .error e => .error e

def setAccessPoint (b : Builder) (v : Value) : Except InvalidArgument Builder :=
  match accessPointOf v with
  | .ok r => .ok { b with accessPoint := some r }
  | .error e => .error e

def build (b : Builder) : ConfigSnapshot :=
  { savedNetworks := b.savedNetworks, accessPoint := b.accessPoint }

end Builder

end ConfigSnapshot

end Handover
