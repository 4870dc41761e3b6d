import Handover.Number.Binary64
import Handover.Number.Integer

namespace Handover.Number

def digitValue? (c : Char) : Option Nat :=
  if 'a' ≤ c && c ≤ 'z' then some (c.toNat - 87)
  else if 'A' ≤ c && c ≤ 'Z' then some (c.toNat - 55)
  else Text.decimalValue? c

def baseLetter? : (base : Nat) → Option Char
  | 2 => some 'b'
  | 8 => some 'o'
  | 16 => some 'x'
  | _ => none

def dropBase (base : Nat) : List Char → List Char
  | '0' :: x :: rest =>
      if baseLetter? base == some x.toLower then rest else '0' :: x :: rest
  | cs => cs

def digitsIn? (base : Nat) (cs : List Char) : Option (List Nat) :=
  let digits := (dropBase base cs).map digitValue?
  if digits.isEmpty || digits.any fun d => d.all (base ≤ ·) then none
  else some (digits.filterMap id)

def signed? (read : List Char → Option α) (negate : α → α) (cs : List Char) : Option α :=
  match Text.trimChars Text.isBlank cs with
  | '-' :: rest => (read rest).map negate
  | '+' :: rest => read rest
  | rest => read rest

def signedDigits? (base : Nat) (cs : List Char) : Option (Bool × List Nat) :=
  signed? (fun cs => (digitsIn? base cs).map (false, ·)) (fun x => (true, x.2)) cs

def ofDigitsIn (base : Nat) (digits : List Nat) : Nat :=
  digits.foldl (fun n d => n * base + d) 0

def pointDigits? (cs : List Char) : Option (List Nat × Nat) :=
  let whole := cs.takeWhile (· != '.')
  let fraction := (cs.dropWhile (· != '.')).drop 1
  let digits := (whole ++ fraction).map Text.decimalValue?
  if digits.isEmpty || digits.any Option.isNone then none
  else some (digits.filterMap id, fraction.length)

def exponentOf? : List Char → Option Int
  | [] => some 0
  | _ :: rest =>
      let read (cs : List Char) : Option Int :=
        let digits := cs.map Text.decimalValue?
        if digits.isEmpty || digits.any Option.isNone then none
        else some (ofDigitsIn 10 (digits.filterMap id))
      match rest with
      | '-' :: rest => (read rest).map (-·)
      | '+' :: rest => read rest
      | rest => read rest

def isExponentMark (c : Char) : Bool :=
  c == 'e' || c == 'E'

def unsignedFloat? (cs : List Char) : Option Float :=
  let word := String.ofList (cs.map Char.toLower)
  if word == "inf" || word == "infinity" then some (Float.ofBits 0x7FF0000000000000)
  else if word == "nan" then some (Float.ofBits 0x7FF8000000000000)
  else
    match pointDigits? (cs.takeWhile fun c => !isExponentMark c),
        exponentOf? (cs.dropWhile fun c => !isExponentMark c) with
    | some (digits, places), some e => some (ofDecimal false (ofDigitsIn 10 digits) (e - places))
    | _, _ => none

def float? (cs : List Char) : Option Float :=
  signed? unsignedFloat? (-·) cs

end Handover.Number
