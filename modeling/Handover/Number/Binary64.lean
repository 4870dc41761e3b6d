namespace Handover.Number

inductive Binary64 where
  | nan
  | infinite (negative : Bool)
  | finite (negative : Bool) (mantissa : Nat) (exponent : Int)
  deriving DecidableEq, Repr

namespace Binary64

/-- What the leading one of a mantissa is worth. -/
def lead : Nat := 0x10000000000000

def ofBits (bits : Nat) : Binary64 :=
  let negative := bits / 0x8000000000000000 % 2 == 1
  let biased : Nat := bits / lead % 0x800
  let fraction : Nat := bits % lead
  if biased = 2047 then
    if fraction = 0 then infinite negative else nan
  else if biased = 0 then finite negative fraction (-1074)
  else finite negative (fraction + lead) (biased - 1075)

def ofFloat (x : Float) : Binary64 :=
  ofBits x.toBits.toNat

def toInt? : Binary64 → Option Int
  | finite negative m (.ofNat e) =>
      let n := m * Nat.pow 2 e
      some (if negative then -(n : Int) else n)
  | finite negative m (.negSucc e) =>
      let d := Nat.pow 2 (e + 1)
      if m % d = 0 then some (if negative then -((m / d : Nat) : Int) else (m / d : Nat)) else none
  | _ => none

end Binary64

/-- The number nearest to `digits * 10 ^ exponent`. A text that is far outside the range of the
format is settled by the place of its first digit. -/
def ofDecimal (negative : Bool) (digits : Nat) (exponent : Int) : Float :=
  let place := ((Nat.toDigits 10 digits).length : Int) + exponent
  let x : Float :=
    if digits = 0 then 0
    else if place > 310 then Float.ofBits 0x7FF0000000000000
    else if place < -330 then 0
    else
      match exponent with
      | .ofNat e => Float.ofScientific digits false e
      | .negSucc e => Float.ofScientific digits true (e + 1)
  if negative then -x else x

end Handover.Number
