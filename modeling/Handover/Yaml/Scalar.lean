import Handover.Number.Text
import Handover.Text.Base64
import Handover.Value.Basic
import Handover.Yaml.Fault
import Handover.Yaml.Tag

namespace Handover.Yaml.Scalar

def codesOf (s : String) : List Nat :=
  (s : Text).codes

def startsWith (s : String) (codes : List Nat) : Bool :=
  (codesOf s).isPrefixOf codes

def withoutUnderscores (codes : List Nat) : List Nat :=
  codes.filter (· != '_'.toNat)

def lowered (codes : List Nat) : List Nat :=
  codes.map fun n => if 'A'.toNat ≤ n && n ≤ 'Z'.toNat then n + 32 else n

def isNegative (codes : List Nat) : Bool :=
  startsWith "-" codes

def withoutSign (codes : List Nat) : List Nat :=
  if startsWith "-" codes || startsWith "+" codes then codes.drop 1 else codes

def colonParts : List Nat → List (List Nat)
  | [] => [[]]
  | n :: rest =>
      match colonParts rest with
      | [] => [[n]]
      | part :: parts => if n = ':'.toNat then [] :: part :: parts else (n :: part) :: parts

def integerIn (base : Nat) (codes : List Nat) : Except Fault Int :=
  let t := Text.ofCodes codes
  match t.proper?.bind fun s => Number.signedDigits? base s.toList with
  | none => .error (.notInteger base t)
  | some (negative, digits) =>
      if base = 10 && Number.digitLimit < digits.length then .error (.tooManyDigits digits.length)
      else
        let n : Int := Number.ofDigitsIn base digits
        .ok (if negative then -n else n)

def sixties (parts : List Int) : Int :=
  parts.foldr (fun d n => d + 60 * n) 0

def unsignedInteger (codes : List Nat) : Except Fault Int :=
  if codes.isEmpty then .error .emptyNumber
  else if codes = codesOf "0" then .ok 0
  else if startsWith "0b" codes then integerIn 2 (codes.drop 2)
  else if startsWith "0x" codes then integerIn 16 (codes.drop 2)
  else if startsWith "0" codes then integerIn 8 codes
  else if codes.contains ':'.toNat then do
    let parts ← (colonParts codes).mapM (integerIn 10)
    return sixties parts.reverse
  else integerIn 10 codes

def integer (t : Text) : Except Fault Int := do
  let codes := withoutUnderscores t.codes
  let n ← unsignedInteger (withoutSign codes)
  return if isNegative codes then -n else n

def decimalFloat (codes : List Nat) : Except Fault Float :=
  let t := Text.ofCodes codes
  match t.proper?.bind fun s => Number.float? s.toList with
  | some x => .ok x
  | none => .error (.notFloat t)

/-- How many powers of sixty are floating point numbers. -/
def sixtyPowers : Nat := 174

def floatSixties (parts : List Float) : Except Fault Float :=
  if sixtyPowers < parts.length then .error .overflow
  else
    .ok (parts.foldl (fun (sum, base) d => (sum + d * Float.ofNat base, base * 60)) ((0 : Float), 1)).1

def unsignedFloat (codes : List Nat) : Except Fault Float :=
  if codes = codesOf ".inf" then .ok (Float.ofBits 0x7FF0000000000000)
  else if codes = codesOf ".nan" then .ok (Float.ofBits 0x7FF8000000000000)
  else if codes.contains ':'.toNat then do
    let parts ← (colonParts codes).mapM decimalFloat
    floatSixties parts.reverse
  else decimalFloat codes

def float (t : Text) : Except Fault Float := do
  let codes := lowered (withoutUnderscores t.codes)
  if codes.isEmpty then throw .emptyNumber
  let x ← unsignedFloat (withoutSign codes)
  return if isNegative codes then -x else x

def bool (t : Text) : Except Fault Bool :=
  let word := Text.ofCodes (lowered t.codes)
  if [some "yes", some "true", some "on"].contains word.proper? then .ok true
  else if [some "no", some "false", some "off"].contains word.proper? then .ok false
  else .error (.notFlag word)

def binary (t : Text) : Except Fault Bytes :=
  match t.proper?.bind fun s =>
      if s.toList.all fun c => c.toNat < 128 then Text.Base64.decode? s.toList else none with
  | some bs => .ok bs
  | none => .error .malformed

def number (cs : List Char) : Nat :=
  cs.foldl (fun n c => n * 10 + (c.toNat - 48)) 0

def microseconds (fraction : List Char) : Nat :=
  number ((fraction ++ List.replicate 6 '0').take 6)

def offsetMinutes (parts : TimestampParts) : Option Int :=
  match parts.offset with
  | some (negative, hours, minutes) =>
      let n : Int := number hours * 60 + number minutes
      some (if negative then -n else n)
  | none => if parts.utc then some 0 else none

def timestamp (t : Text) : Except Fault Value :=
  match t.proper?.bind fun s => timestamp? (dropLastBreak s.toList) with
  | none => .error .notTimestamp
  | some parts =>
      let date := Date.make (number parts.year) (number parts.month) (number parts.day)
      match parts.time with
      | none =>
          match date with
          | .ok d => .ok (.date d)
          | .error e => .error (.calendar e)
      | some (hour, minute, second) =>
          match DateTime.make date (number hour) (number minute) (number second)
              (microseconds parts.fraction) (offsetMinutes parts) with
          | .ok t => .ok (.dateTime t)
          | .error e => .error (.calendar e)

end Handover.Yaml.Scalar
