import Handover.Yaml.Cursor

namespace Handover.Yaml

inductive Tag where
  | null
  | bool
  | int
  | float
  | binary
  | timestamp
  | orderedMap
  | pairs
  | set
  | text
  | sequence
  | mapping
  | merge
  | value
  | other
  deriving DecidableEq, Repr

namespace Tag

def core : List (String × Tag) :=
  [("null", null), ("bool", bool), ("int", int), ("float", float), ("binary", binary),
    ("timestamp", timestamp), ("omap", orderedMap), ("pairs", pairs), ("set", set), ("str", text),
    ("seq", sequence), ("map", mapping), ("merge", merge), ("value", value)]

def corePrefix : String := "tag:yaml.org,2002:"

def ofText (s : String) : Tag :=
  match core.find? fun t => corePrefix ++ t.1 == s with
  | some (_, t) => t
  | none => other

end Tag

def isDigitOrUnderscore (c : Char) : Bool :=
  isDigit c || c == '_'

def dropSign : List Char → List Char
  | '+' :: rest => rest
  | '-' :: rest => rest
  | cs => cs

def boolWords : List String :=
  ["yes", "Yes", "YES", "no", "No", "NO", "true", "True", "TRUE", "false", "False", "FALSE",
    "on", "On", "ON", "off", "Off", "OFF"]

def nullWords : List String :=
  ["~", "null", "Null", "NULL"]

/-- Words that a plain scalar cannot be; their tag is one that nothing reads. -/
def indicatorWords : List String :=
  ["!", "&", "*"]

def isExponent : List Char → Bool
  | [] => true
  | x :: sign :: digits =>
      (x == 'e' || x == 'E') && (sign == '+' || sign == '-') && !digits.isEmpty && digits.all isDigit
  | _ => false

def sixties? : (fuel : Nat) → List Char → Option (List Char)
  | 0, _ => none
  | fuel + 1, ':' :: rest =>
      let digits := rest.takeWhile isDigit
      let after := rest.dropWhile isDigit
      let fits :=
        match digits with
        | [_] => true
        | [tens, _] => tens ≤ '5'
        | _ => false
      if !fits then none
      else if after.head? == some ':' then sixties? fuel after
      else some after
  | _, _ => none

def isPointNumber (cs : List Char) : Bool :=
  match cs with
  | '.' :: x :: rest => isDigit x && isExponent (rest.dropWhile isDigitOrUnderscore)
  | _ =>
      match dropSign cs with
      | x :: rest =>
          isDigit x &&
            match rest.dropWhile isDigitOrUnderscore with
            | '.' :: rest => isExponent (rest.dropWhile isDigitOrUnderscore)
            | _ => false
      | [] => false

def isSixtiesPoint (cs : List Char) : Bool :=
  match dropSign cs with
  | x :: rest =>
      isDigit x &&
        match sixties? cs.length (rest.dropWhile isDigitOrUnderscore) with
        | some ('.' :: rest) => rest.all isDigitOrUnderscore
        | _ => false
  | [] => false

def isFloatText (cs : List Char) : Bool :=
  isPointNumber cs || isSixtiesPoint cs ||
    [".inf", ".Inf", ".INF"].contains (String.ofList (dropSign cs)) ||
    [".nan", ".NaN", ".NAN"].contains (String.ofList cs)

def isBaseDigit (base : Nat) (c : Char) : Bool :=
  c == '_' ||
    (if base = 16 then isDigit c || ('a' ≤ c && c ≤ 'f') || ('A' ≤ c && c ≤ 'F')
      else isDigit c && c.toNat < 48 + base)

def isIntText (cs : List Char) : Bool :=
  match dropSign cs with
  | ['0'] => true
  | '0' :: 'b' :: digits => !digits.isEmpty && digits.all (isBaseDigit 2)
  | '0' :: 'x' :: digits => !digits.isEmpty && digits.all (isBaseDigit 16)
  | '0' :: digits => digits.all (isBaseDigit 8)
  | x :: rest =>
      isDigit x &&
        match rest.dropWhile isDigitOrUnderscore with
        | [] => true
        | more => sixties? cs.length more == some []
  | [] => false

structure TimestampParts where
  year : List Char
  month : List Char
  day : List Char
  time : Option (List Char × List Char × List Char) := none
  fraction : List Char := []
  utc : Bool := false
  /-- Whether the offset is negative, its hours and its minutes. -/
  offset : Option (Bool × List Char × List Char) := none
  deriving DecidableEq, Repr

def digits? (least most : Nat) (cs : List Char) : Option (List Char × List Char) :=
  let digits := (cs.take most).takeWhile isDigit
  if digits.length < least then none else some (digits, cs.drop digits.length)

def expect (c : Char) : List Char → Option (List Char)
  | x :: rest => if x == c then some rest else none
  | [] => none

def zone? (parts : TimestampParts) (cs : List Char) : Option TimestampParts :=
  match cs.dropWhile isSpaceOrTab with
  | [] => if cs.isEmpty then some parts else none
  | ['Z'] => some { parts with utc := true }
  | sign :: rest => do
      if sign != '+' && sign != '-' then none
      let (hours, rest) ← digits? 1 2 rest
      match rest with
      | [] => some { parts with offset := some (sign == '-', hours, []) }
      | rest => do
          let rest ← expect ':' rest
          let (minutes, rest) ← digits? 2 2 rest
          if rest.isEmpty then some { parts with offset := some (sign == '-', hours, minutes) }
          else none

def timestamp? (cs : List Char) : Option TimestampParts := do
  let (year, rest) ← digits? 4 4 cs
  let rest ← expect '-' rest
  let (month, rest) ← digits? 1 2 rest
  let rest ← expect '-' rest
  let (day, rest) ← digits? 1 2 rest
  let parts : TimestampParts := { year, month, day }
  match rest with
  | [] => some parts
  | x :: after => do
      let rest ←
        if x == 'T' || x == 't' then some after
        else if isSpaceOrTab x then some (after.dropWhile isSpaceOrTab)
        else none
      let (hour, rest) ← digits? 1 2 rest
      let rest ← expect ':' rest
      let (minute, rest) ← digits? 2 2 rest
      let rest ← expect ':' rest
      let (second, rest) ← digits? 2 2 rest
      let parts := { parts with time := some (hour, minute, second) }
      match rest with
      | '.' :: rest =>
          zone? { parts with fraction := rest.takeWhile isDigit } (rest.dropWhile isDigit)
      | rest => zone? parts rest

/-- A date alone is one only if month and day have two digits. -/
def isTimestampText (cs : List Char) : Bool :=
  match timestamp? cs with
  | none => false
  | some parts => parts.time.isSome || (parts.month.length == 2 && parts.day.length == 2)

/-- One line break at the end does not count. -/
def dropLastBreak (cs : List Char) : List Char :=
  if cs.getLast? == some '\n' then cs.dropLast else cs

def Tag.ofPlain (s : String) : Tag :=
  let cs := dropLastBreak s.toList
  let word := String.ofList cs
  if boolWords.contains word then .bool
  else if isFloatText cs then .float
  else if isIntText cs then .int
  else if word == "<<" then .merge
  else if s == "" || nullWords.contains word then .null
  else if isTimestampText cs then .timestamp
  else if word == "=" then .value
  else if indicatorWords.contains word then .other
  else .text

end Handover.Yaml
