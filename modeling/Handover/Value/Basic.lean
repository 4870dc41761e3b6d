import Handover.Bytes
import Handover.Calendar
import Handover.Record.Basic
import Handover.Record.Rule

namespace Handover

/-- A type of a caller's own: its name, and what one of its objects shows plainly and quoted. -/
structure Foreign where
  type : String
  plain : Text
  quoted : String
  deriving DecidableEq, Repr

/-- What an object gives where a condition, a text, a flag or an integer is asked of it. -/
structure Conversion where
  truthy : Bool := true
  text : Except Rule String := .error .stringType
  flag : Except Rule Bool := .error .boolType
  integer : Except Rule Int := .error .intType

/-- A value of any type, as documents and callers hand them in. An object of a class derived from
text, such as the member of an enumeration of texts, is `derived`; ranges, queues and sequences of a
caller's own are `sequence`. -/
inductive Value where
  | null
  | bool (b : Bool)
  | int (n : Int)
  | float (x : Float)
  | text (t : Text)
  | derived (f : Foreign) (t : Text)
  | bytes (b : Bytes)
  | byteArray (b : Bytes)
  | date (d : Date)
  | dateTime (t : DateTime)
  | list (items : List Value)
  | tuple (items : List Value)
  | set (items : List Value)
  | sequence (f : Foreign) (items : List Value)
  | map (entries : List (Value × Value))
  | network (r : NetworkRecord)
  | accessPoint (r : AccessPointRecord)
  | object (f : Foreign) (c : Conversion)
  deriving Inhabited

namespace Value

def typeName : Value → String
  | null => "NoneType"
  | bool _ => "bool"
  | int _ => "int"
  | float _ => "float"
  | text _ => "str"
  | derived f _ => f.type
  | bytes _ => "bytes"
  | byteArray _ => "bytearray"
  | date _ => "date"
  | dateTime _ => "datetime"
  | list _ => "list"
  | tuple _ => "tuple"
  | set _ => "set"
  | sequence f _ => f.type
  | map _ => "dict"
  | network _ => "NetworkRecord"
  | accessPoint _ => "AccessPointRecord"
  | object f _ => f.type

def truthy : Value → Bool
  | null => false
  | bool b => b
  | int n => n != 0
  | float x => x != 0
  | text t => t != ""
  | derived _ t => t != ""
  | bytes b => !b.isEmpty
  | byteArray b => !b.isEmpty
  | date _ => true
  | dateTime _ => true
  | list items => !items.isEmpty
  | tuple items => !items.isEmpty
  | set items => !items.isEmpty
  | sequence _ items => !items.isEmpty
  | map entries => !entries.isEmpty
  | network _ => true
  | accessPoint _ => true
  | object _ c => c.truthy

def textEntries? : List (Value × Value) → Option (List (Text × Value))
  | [] => some []
  | (text k, v) :: rest => (textEntries? rest).map ((k, v) :: ·)
  | _ :: _ => none

def field? (name : String) : List (Value × Value) → Option Value
  | [] => none
  | (text k, v) :: rest => if k = name then some v else field? name rest
  | _ :: rest => field? name rest

end Value

end Handover
