import Handover.Text.Blank
import Handover.Text.Digit

namespace Handover.Number

def digitLimit : Nat := 4300

def digitRun? : List Char → Option (List Nat)
  | [] => none
  | [c] => (Text.decimalValue? c).map ([·])
  | c :: '_' :: rest =>
      match Text.decimalValue? c with
      | none => none
      | some d => (digitRun? rest).map (d :: ·)
  | c :: rest =>
      match Text.decimalValue? c with
      | none => none
      | some d => (digitRun? rest).map (d :: ·)

def ofDigits (digits : List Nat) : Nat :=
  digits.foldl (fun n d => n * 10 + d) 0

def natural? (cs : List Char) : Option Nat :=
  match digitRun? cs with
  | none => none
  | some digits => if digits.length ≤ digitLimit then some (ofDigits digits) else none

def ofText? (s : String) : Option Int :=
  match Text.trimChars Text.isBlank s.toList with
  | '-' :: rest => (natural? rest).map fun n => -(n : Int)
  | '+' :: rest => (natural? rest).map fun n => (n : Int)
  | rest => (natural? rest).map fun n => (n : Int)

inductive TextFault where
  | form
  | size
  deriving DecidableEq, Repr

def isAsciiDigit (c : Char) : Bool :=
  '0' ≤ c && c ≤ '9'

/-- Drops zeros and underscores in front of a number that starts with a zero, but keeps one zero
before the point or the end. -/
def dropZeros : (last : Char) → List Char → Option (List Char)
  | last, [] => some [last]
  | last, c :: rest =>
      if c == '0' || c == '_' then dropZeros c rest
      else if '1' ≤ c && c ≤ '9' then some (c :: rest)
      else if c == '.' then some (last :: c :: rest)
      else none

def stripLeading : List Char → Option (List Char)
  | '0' :: rest => dropZeros '0' rest
  | c :: rest => if ('1' ≤ c && c ≤ '9') || c == '-' then some (c :: rest) else none
  | [] => none

def stripFraction (cs : List Char) : List Char :=
  let whole := cs.takeWhile (· != '.')
  let zeros := (cs.dropWhile (· != '.')).drop 1
  if !zeros.isEmpty && zeros.all (· == '0') then whole else cs

def hasDoubleUnderscore : List Char → Bool
  | '_' :: '_' :: _ => true
  | _ :: rest => hasDoubleUnderscore rest
  | [] => false

def stripUnderscores (cs : List Char) : List Char :=
  if cs.head? == some '_' || cs.getLast? == some '_' || hasDoubleUnderscore cs then cs
  else cs.filter (· != '_')

def asciiNatural? (cs : List Char) : Option Nat :=
  if !cs.isEmpty && cs.all isAsciiDigit then
    some (cs.foldl (fun n c => n * 10 + (c.toNat - 48)) 0)
  else none

/-- A text of 19 characters or more may hold underscores anywhere but in front. -/
def asciiInteger? (cs : List Char) : Option Int :=
  let long := 19 ≤ cs.length
  let digits (cs : List Char) : Option Nat :=
    if long && cs.head? != some '_' then asciiNatural? (cs.filter (· != '_')) else asciiNatural? cs
  match cs with
  | '-' :: rest => (digits rest).map fun n => -(n : Int)
  | rest => (digits rest).map fun n => (n : Int)

/-- The text of an integer field: white space around it, a sign, zeros in front, single underscores
between digits, and a point followed by zeros. -/
def ofFieldText (s : String) : Except TextFault Int :=
  let body :=
    match Text.trimChars Text.isWhiteSpace s.toList with
    | '+' :: '-' :: _ => none
    | '+' :: rest => stripLeading rest
    | rest => stripLeading rest
  match body with
  | none => .error .form
  | some body =>
      let cleaned := stripUnderscores (stripFraction body)
      if digitLimit < cleaned.length then .error .size
      else
        match asciiInteger? cleaned with
        | some n => .ok n
        | none => .error .form

end Handover.Number
