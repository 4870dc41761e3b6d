import Handover.Text.Basic
import Handover.Text.Quoted
import Handover.Text.Utf8

namespace Handover

/-- The first row of surrogates in a text: its first code point, and where the row starts and stops. -/
structure EncodingFault where
  first : Nat
  start : Nat
  stop : Nat
  deriving DecidableEq, Repr

namespace EncodingFault

def ofCodes (codes : List Nat) : EncodingFault :=
  let before := codes.takeWhile fun n => !isSurrogate n
  let row := (codes.drop before.length).takeWhile isSurrogate
  ⟨row.headD 0, before.length, before.length + row.length⟩

def message (e : EncodingFault) : String :=
  if e.start + 1 = e.stop then
    "'utf-8' codec can't encode character '\\u" ++ String.ofList (Text.Quoted.hexDigits 4 e.first) ++
      "' in position " ++ toString e.start ++ ": surrogates not allowed"
  else
    "'utf-8' codec can't encode characters in position " ++ toString e.start ++ "-" ++
      toString (e.stop - 1) ++ ": surrogates not allowed"

end EncodingFault

namespace Text

def string : Text → Except EncodingFault String
  | proper s => .ok s
  | ill codes _ => .error (.ofCodes codes)

def encode : Text → Except EncodingFault Bytes
  | proper s => .ok (Utf8.encode s)
  | ill codes _ => .error (.ofCodes codes)

def quoted : Text → String
  | proper s => Quoted.text s
  | ill codes _ =>
      let quote := Quoted.quoteFor (codes.contains 0x27) (codes.contains 0x22)
      let char (n : Nat) : List Char :=
        if isSurrogate n then Quoted.escapeCode n else Quoted.char quote (Char.ofNat n)
      String.ofList (quote :: codes.flatMap char ++ [quote])

end Text

end Handover
