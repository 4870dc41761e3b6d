import Handover.Value.Basic
import Handover.Number.Binary64

namespace Handover.Json

def isBlank (c : Char) : Bool :=
  c == ' ' || c == '\t' || c == '\n' || c == '\r'

def skipBlank (cs : List Char) : List Char :=
  cs.dropWhile isBlank

def hexValue? (c : Char) : Option Nat :=
  if '0' ≤ c && c ≤ '9' then some (c.toNat - 48)
  else if 'a' ≤ c && c ≤ 'f' then some (c.toNat - 87)
  else if 'A' ≤ c && c ≤ 'F' then some (c.toNat - 55)
  else none

def hex4? (a b c d : Char) : Option Nat := do
  let a ← hexValue? a
  let b ← hexValue? b
  let c ← hexValue? c
  let d ← hexValue? d
  return ((a * 16 + b) * 16 + c) * 16 + d

def escaped? : Char → Option Char
  | '"' => some '"'
  | '\\' => some '\\'
  | '/' => some '/'
  | 'b' => some '\x08'
  | 'f' => some '\x0c'
  | 'n' => some '\n'
  | 'r' => some '\r'
  | 't' => some '\t'
  | _ => none

/-- A string after its opening quote, and what follows the closing one. Half of a surrogate pair is
no character. -/
def stringBody : List Char → Option (List Char × List Char)
  | [] => none
  | '"' :: rest => some ([], rest)
  | '\\' :: 'u' :: a :: b :: c :: d :: rest =>
      match hex4? a b c d with
      | none => none
      | some n =>
          if 0xD800 ≤ n && n ≤ 0xDBFF then
            match rest with
            | '\\' :: 'u' :: e :: f :: g :: h :: rest =>
                match hex4? e f g h with
                | none => none
                | some m =>
                    if 0xDC00 ≤ m && m ≤ 0xDFFF then
                      (stringBody rest).map fun r =>
                        (Char.ofNat (0x10000 + (n - 0xD800) * 0x400 + (m - 0xDC00)) :: r.1, r.2)
                    else none
            | _ => none
          else if 0xDC00 ≤ n && n ≤ 0xDFFF then none
          else (stringBody rest).map fun r => (Char.ofNat n :: r.1, r.2)
  | '\\' :: c :: rest =>
      match escaped? c with
      | none => none
      | some e => (stringBody rest).map fun r => (e :: r.1, r.2)
  | c :: rest =>
      if c == '\\' || c.toNat < 0x20 then none
      else (stringBody rest).map fun r => (c :: r.1, r.2)

def isDigit (c : Char) : Bool :=
  '0' ≤ c && c ≤ '9'

def digitsValue (cs : List Char) : Nat :=
  cs.foldl (fun n c => n * 10 + (c.toNat - 48)) 0

def fraction? : List Char → Option (Option (List Char) × List Char)
  | '.' :: rest =>
      let digits := rest.takeWhile isDigit
      if digits.isEmpty then none else some (some digits, rest.dropWhile isDigit)
  | rest => some (none, rest)

def exponentDigits? (negative : Bool) (cs : List Char) : Option (Int × List Char) :=
  let digits := cs.takeWhile isDigit
  if digits.isEmpty then none
  else
    let n : Int := digitsValue digits
    some (if negative then -n else n, cs.dropWhile isDigit)

def exponent? : List Char → Option (Option Int × List Char)
  | c :: rest =>
      if c == 'e' || c == 'E' then
        match rest with
        | '+' :: rest => (exponentDigits? false rest).map fun r => (some r.1, r.2)
        | '-' :: rest => (exponentDigits? true rest).map fun r => (some r.1, r.2)
        | rest => (exponentDigits? false rest).map fun r => (some r.1, r.2)
      else some (none, c :: rest)
  | [] => some (none, [])

/-- How deep arrays and objects with contents may nest, and how many characters the whole part of a
number may have, its sign included. -/
structure Limits where
  depth : Nat
  digits : Nat
  deriving DecidableEq, Repr

def number? (digits : Nat) (negative : Bool) (cs : List Char) : Option (Value × List Char) := do
  let whole := cs.takeWhile isDigit
  let rest := cs.dropWhile isDigit
  if whole.isEmpty || (whole.head? == some '0' && 1 < whole.length) then none
  if digits < whole.length + (if negative then 1 else 0) then none
  let (fraction, rest) ← fraction? rest
  let (exponent, rest) ← exponent? rest
  if fraction.isNone && exponent.isNone then
    let n : Int := digitsValue whole
    some (.int (if negative then -n else n), rest)
  else
    let fraction := fraction.getD []
    let exponent := exponent.getD 0 - fraction.length
    some (.float (Number.ofDecimal negative (digitsValue (whole ++ fraction)) exponent), rest)

def infinity (negative : Bool) : Value :=
  .float (Float.ofBits (if negative then 0xFFF0000000000000 else 0x7FF0000000000000))

def nan : Value :=
  .float (Float.ofBits 0x7FF8000000000000)

mutual

/-- A value at the start of a text. Fuel is spent on each value and each comma. -/
def value (digits : Nat) : (fuel depth : Nat) → List Char → Option (Value × List Char)
  | 0, _, _ => none
  | fuel + 1, depth, cs =>
      match skipBlank cs with
      | 'n' :: 'u' :: 'l' :: 'l' :: rest => some (.null, rest)
      | 't' :: 'r' :: 'u' :: 'e' :: rest => some (.bool true, rest)
      | 'f' :: 'a' :: 'l' :: 's' :: 'e' :: rest => some (.bool false, rest)
      | 'N' :: 'a' :: 'N' :: rest => some (nan, rest)
      | 'I' :: 'n' :: 'f' :: 'i' :: 'n' :: 'i' :: 't' :: 'y' :: rest => some (infinity false, rest)
      | '-' :: 'I' :: 'n' :: 'f' :: 'i' :: 'n' :: 'i' :: 't' :: 'y' :: rest =>
          some (infinity true, rest)
      | '-' :: rest => number? digits true rest
      | '"' :: rest => (stringBody rest).map fun r => (.text (String.ofList r.1), r.2)
      | '[' :: rest =>
          match skipBlank rest with
          | ']' :: rest => some (.list [], rest)
          | rest =>
              if depth = 0 then none
              else (items digits fuel (depth - 1) rest).map fun r => (.list r.1, r.2)
      | '\x7b' :: rest =>
          match skipBlank rest with
          | '\x7d' :: rest => some (.map [], rest)
          | rest =>
              if depth = 0 then none
              else (members digits fuel (depth - 1) rest).map fun r => (.map r.1, r.2)
      | rest => number? digits false rest

def items (digits : Nat) : (fuel depth : Nat) → List Char → Option (List Value × List Char)
  | 0, _, _ => none
  | fuel + 1, depth, cs =>
      match value digits fuel depth cs with
      | none => none
      | some (v, rest) =>
          match skipBlank rest with
          | ']' :: rest => some ([v], rest)
          | ',' :: rest => (items digits fuel depth rest).map fun r => (v :: r.1, r.2)
          | _ => none

def members (digits : Nat) :
    (fuel depth : Nat) → List Char → Option (List (Value × Value) × List Char)
  | 0, _, _ => none
  | fuel + 1, depth, cs =>
      match skipBlank cs with
      | '"' :: rest =>
          match stringBody rest with
          | none => none
          | some (key, rest) =>
              match skipBlank rest with
              | ':' :: rest =>
                  match value digits fuel depth rest with
                  | none => none
                  | some (v, rest) =>
                      let entry := (Value.text (String.ofList key), v)
                      match skipBlank rest with
                      | '\x7d' :: rest => some ([entry], rest)
                      | ',' :: rest => (members digits fuel depth rest).map fun r => (entry :: r.1, r.2)
                      | _ => none
              | _ => none
      | _ => none

end

def read? (limits : Limits) (cs : List Char) : Option Value :=
  match value limits.digits (2 * cs.length + 2) limits.depth cs with
  | some (v, rest) => if (skipBlank rest).isEmpty then some v else none
  | none => none

end Handover.Json
