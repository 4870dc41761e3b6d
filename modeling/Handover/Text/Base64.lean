import Handover.Bytes

namespace Handover.Text.Base64

def digits : List Char :=
  "ABCDEFGHIJKLMNOPQRSTUVWXYZabcdefghijklmnopqrstuvwxyz0123456789+/".toList

def digit (n : Nat) : Char :=
  digits.getD n '='

def value? (c : Char) : Option Nat :=
  digits.idxOf? c

def encode : Bytes → List Char
  | [] => []
  | [a] =>
      let n := a.toNat * 0x10000
      [digit (n / 0x40000), digit (n / 0x1000 % 0x40), '=', '=']
  | [a, b] =>
      let n := a.toNat * 0x10000 + b.toNat * 0x100
      [digit (n / 0x40000), digit (n / 0x1000 % 0x40), digit (n / 0x40 % 0x40), '=']
  | a :: b :: c :: rest =>
      let n := a.toNat * 0x10000 + b.toNat * 0x100 + c.toNat
      digit (n / 0x40000) :: digit (n / 0x1000 % 0x40) :: digit (n / 0x40 % 0x40) :: digit (n % 0x40) ::
        encode rest

/-- Reads on from within a group: `held` are its digits so far, last one first, and `pads` the padding
characters right before. Characters that are no digits are passed over. -/
def decodeFrom : (held : List Nat) → (pads : Nat) → List Char → Option Bytes
  | held, _, [] => if held.isEmpty then some [] else none
  | held, pads, c :: rest =>
      if c == '=' then
        if 2 ≤ held.length then
          if 4 ≤ held.length + pads + 1 then some [] else decodeFrom held (pads + 1) rest
        else decodeFrom held pads rest
      else
        match value? c with
        | none => decodeFrom held pads rest
        | some n =>
            match held with
            | [] => decodeFrom [n] 0 rest
            | [a] => (decodeFrom [n, a] 0 rest).map (UInt8.ofNat (a * 4 + n / 16) :: ·)
            | [b, a] =>
                (decodeFrom [n, b, a] 0 rest).map (UInt8.ofNat (b % 16 * 16 + n / 4) :: ·)
            | c :: _ => (decodeFrom [] 0 rest).map (UInt8.ofNat (c % 4 * 64 + n) :: ·)

/-- Bytes up to the padding of a group; none if the text ends inside a group. -/
def decode? (cs : List Char) : Option Bytes :=
  decodeFrom [] 0 cs

end Handover.Text.Base64
