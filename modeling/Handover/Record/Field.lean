import Handover.Number.Binary64
import Handover.Number.Integer
import Handover.Record.Rule
import Handover.Text.Utf8
import Handover.Value.Basic

namespace Handover.Field

abbrev Reading (α : Type) := Except Rule α

def properText : Text → Reading String
  | .proper s => .ok s
  | .ill _ _ => .error .stringUnicode

/-- What text or bytes spell, if the value is one of them. `rule` is broken by bytes that are not the
UTF-8 form of a text. -/
def spelled? (rule : Rule) : Value → Option (Reading String)
  | .text t => some (properText t)
  | .derived _ t => some (properText t)
  | .bytes b => some (decoded b)
  | .byteArray b => some (decoded b)
  | _ => none
where
  decoded (b : Bytes) : Reading String :=
    match Text.Utf8.decode? b with
    | some s => .ok s
    | none => .error rule

def string (v : Value) : Reading String :=
  match spelled? .stringUnicode v with
  | some r => r
  | none =>
      match v with
      | .object _ c => c.text
      | _ => .error .stringType

/-- Text is taken as it is, ill text too: nothing is asked of its characters. -/
def text : Value → Reading Text
  | .text t => .ok t
  | v => (string v).map .proper

def optional (read : Value → Reading α) : Value → Reading (Option α)
  | .null => .ok none
  | v =>
      match read v with
      | .ok a => .ok (some a)
      | .error e => .error e

def sized (least most : Nat) (v : Value) : Reading String :=
  match string v with
  | .error e => .error e
  | .ok s =>
      if s.length < least then .error .stringTooShort
      else if most < s.length then .error .stringTooLong
      else .ok s

def labelled (label : α → String) (all : List α) (s : String) : Reading α :=
  match ofLabel? label all s with
  | some a => .ok a
  | none => .error .enum

def member (label : α → String) (all : List α) (v : Value) : Reading α :=
  match spelled? .enum v with
  | some (.ok s) => labelled label all s
  | some (.error e) => .error e
  | none =>
      match string v with
      | .ok s => labelled label all s
      | .error _ => .error .enum

def lower (s : String) : String :=
  String.ofList (s.toList.map Char.toLower)

def flagText (s : String) : Reading Bool :=
  let s := lower s
  if ["0", "f", "n", "no", "off", "false"].contains s then .ok false
  else if ["1", "t", "y", "yes", "on", "true"].contains s then .ok true
  else .error .boolParsing

/-- The integers of 64 bits lie below this bound, and not below its negative. -/
def wordBound : Int := 0x8000000000000000

def isWord (n : Int) : Bool :=
  -wordBound ≤ n && n < wordBound

def flagNumber (n : Int) : Reading Bool :=
  if n = 0 then .ok false
  else if n = 1 then .ok true
  else .error .boolParsing

def flag (v : Value) : Reading Bool :=
  match spelled? .boolParsing v with
  | some (.ok s) => flagText s
  | some (.error e) => .error e
  | none =>
      match v with
      | .bool b => .ok b
      | .int n => if isWord n then flagNumber n else .error .boolType
      | .float x =>
          match (Number.Binary64.ofFloat x).toInt? with
          | some n => if isWord n && n != -wordBound then flagNumber n else .error .boolType
          | none => .error .boolType
      | .object _ c => c.flag
      | _ => .error .boolType

def integerText (s : String) : Reading Int :=
  match Number.ofFieldText s with
  | .ok n => .ok n
  | .error .form => .error .intParsing
  | .error .size => .error .intParsingSize

def integer (v : Value) : Reading Int :=
  match spelled? .intParsing v with
  | some (.ok s) => integerText s
  | some (.error e) => .error e
  | none =>
      match v with
      | .bool b => .ok (if b then 1 else 0)
      | .int n => .ok n
      | .float x =>
          match Number.Binary64.ofFloat x with
          | .nan => .error .finiteNumber
          | .infinite _ => .error .finiteNumber
          | finite =>
              match finite.toInt? with
              | none => .error .intFromFloat
              | some n => if isWord n && n != -wordBound then .ok n else .error .intParsingSize
      | .object _ c => c.integer
      | _ => .error .intType

def count (most : Option Nat) (v : Value) : Reading Nat :=
  match integer v with
  | .error e => .error e
  | .ok n =>
      if n < 0 then .error .greaterThanEqual
      else if most.any fun m => (m : Int) < n then .error .lessThanEqual
      else .ok n.toNat

def last? (name : String) : List (String × Value) → Option Value
  | [] => none
  | (k, v) :: rest =>
      match last? name rest with
      | some w => some w
      | none => if k = name then some v else none

def get (entries : List (String × Value)) (name : String) (read : Value → Reading α)
    (absent : Reading α) : Reading α :=
  match last? name entries with
  | some v => read v
  | none => absent

def violation (name : String) : Reading α → List Violation
  | .ok _ => []
  | .error rule => [⟨some name, rule⟩]

def unknown (names : List String) (entries : List (String × Value)) : List Violation :=
  (entries.filter fun e => !names.contains e.1).map fun e => ⟨some e.1, .extraForbidden⟩

def named? : List (Text × Value) → Option (List (String × Value))
  | [] => some []
  | (.proper name, v) :: rest => (named? rest).map ((name, v) :: ·)
  | (.ill _ _, _) :: _ => none

/-- Reads a record by the names of its fields. A name that is ill text is the only fault told of. -/
def byName (kind : RecordKind) (read : List (String × Value) → Except RecordFault α)
    (entries : List (Text × Value)) : Except RecordFault α :=
  match named? entries with
  | some entries => read entries
  | none => .error ⟨kind, [⟨none, .stringUnicode⟩]⟩

end Handover.Field
