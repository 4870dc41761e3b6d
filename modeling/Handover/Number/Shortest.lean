import Handover.Number.Binary64

namespace Handover.Number

structure Decimal where
  digits : Nat
  exponent : Int
  deriving DecidableEq, Repr

def scale (num den base : Nat) : Int → Nat × Nat
  | .ofNat e => (num * Nat.pow base e, den)
  | .negSucc e => (num, den * Nat.pow base (e + 1))

def decade (num den : Nat) : Int :=
  if den ≤ num then (Nat.toDigits 10 (num / den)).length - 1
  else
    let d := (Nat.toDigits 10 (den / num)).length
    if den ≤ num * Nat.pow 10 (d - 1) then -(d - 1 : Nat) else -(d : Nat)

/-- The numbers that round to `mantissa * 2 ^ exponent`, in quarters of the last place. The ends
belong to it when the mantissa is even. -/
structure Interval where
  low : Nat
  mid : Nat
  high : Nat
  closed : Bool
  exponent : Int
  deriving DecidableEq, Repr

def Interval.around (mantissa : Nat) (exponent : Int) : Interval :=
  { low := if mantissa = Binary64.lead && exponent > -1074 then 4 * mantissa - 1 else 4 * mantissa - 2
    mid := 4 * mantissa
    high := 4 * mantissa + 2
    closed := mantissa % 2 == 0
    exponent := exponent - 2 }

def Interval.contains (i : Interval) (d : Decimal) : Bool :=
  let (decimal, decimalDen) := scale d.digits 1 10 d.exponent
  let (low, lowDen) := scale i.low 1 2 i.exponent
  let (high, highDen) := scale i.high 1 2 i.exponent
  let below := low * decimalDen
  let above := high * decimalDen
  if i.closed then below ≤ decimal * lowDen && decimal * highDen ≤ above
  else below < decimal * lowDen && decimal * highDen < above

/-- The point of the grid of `count` digits in the interval that is nearest to its middle; of two at
the same distance the even one. -/
def Interval.onGrid (i : Interval) (count : Nat) : Option Decimal :=
  let (num, den) := scale i.mid 1 2 i.exponent
  let step := decade num den - count + 1
  let (n, d) := scale num den 10 (-step)
  let floor := n / d
  let twice := 2 * (n % d)
  let lower : Decimal := ⟨floor, step⟩
  let upper : Decimal := ⟨floor + 1, step⟩
  match i.contains lower, i.contains upper with
  | false, false => none
  | true, false => some lower
  | false, true => some upper
  | true, true => if twice < d || (twice = d && floor % 2 = 0) then some lower else some upper

def Interval.shortestFrom (i : Interval) : (left count : Nat) → Decimal
  | 0, count => (i.onGrid count).getD ⟨0, 0⟩
  | left + 1, count => (i.onGrid count).getD (i.shortestFrom left (count + 1))

def shortest (mantissa : Nat) (exponent : Int) : Decimal :=
  (Interval.around mantissa exponent).shortestFrom 16 1

def Decimal.normal (d : Decimal) : List Char × Int :=
  let text := Nat.toDigits 10 d.digits
  let kept := (text.reverse.dropWhile (· == '0')).reverse
  (kept, text.length - 1 + d.exponent)

/-- Positional from `0.0001` up to `10 ^ 16`, with a digit on both sides of the point; else one
digit before the point and an exponent of at least two digits. -/
def Decimal.text (d : Decimal) : String :=
  let (digits, place) := d.normal
  if -4 ≤ place && place < 16 then
    if place < 0 then
      String.ofList ("0.".toList ++ List.replicate (-place - 1).toNat '0' ++ digits)
    else
      let whole := place.toNat + 1
      let padded := digits ++ List.replicate (whole - digits.length) '0'
      let fraction := padded.drop whole
      String.ofList (padded.take whole ++ '.' :: if fraction.isEmpty then ['0'] else fraction)
  else
    let fraction := digits.drop 1
    let power := Nat.toDigits 10 place.natAbs
    String.ofList (digits.take 1 ++ (if fraction.isEmpty then [] else '.' :: fraction) ++
      'e' :: (if place < 0 then '-' else '+') :: List.replicate (2 - power.length) '0' ++ power)

def floatText (x : Float) : String :=
  match Binary64.ofFloat x with
  | .nan => "nan"
  | .infinite negative => if negative then "-inf" else "inf"
  | .finite negative m e =>
      let sign := if negative then "-" else ""
      if m = 0 then sign ++ "0.0" else sign ++ (shortest m e).text

end Handover.Number
