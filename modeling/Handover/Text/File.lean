import Handover.Number.Rounded
import Handover.Text.Utf8

namespace Handover.Text

/-- A text file while it is read: its bytes left, those of a character that is not whole yet, whether a
carriage return is held back, the characters not handed out yet, and the sizes of the last piece in
bytes and in characters. -/
structure File where
  bytes : Bytes
  cut : Bytes := []
  held : Bool := false
  decoded : List Char := []
  pieceBytes : Nat := 0
  pieceChars : Nat := 0
  deriving DecidableEq, Repr

namespace File

def unifyBreaks : List Char → List Char
  | '\r' :: '\n' :: rest => '\n' :: unifyBreaks rest
  | '\r' :: rest => '\n' :: unifyBreaks rest
  | c :: rest => c :: unifyBreaks rest
  | [] => []

def leastPiece : Nat := 8192

/-- How many bytes are fetched for so many characters, going by the last piece. -/
def pieceSize (f : File) (wanted : Nat) : Nat :=
  max leastPiece
    (if f.pieceChars = 0 || f.pieceBytes ≤ f.pieceChars then wanted
      else (Number.Rounded.quotient f.pieceBytes f.pieceChars).timesFloor wanted)

/-- Fetches the next piece. A carriage return at its end waits for what follows it. -/
def fetch (f : File) (wanted : Nat) : Except Utf8.Fault File := do
  let piece := f.bytes.take (f.pieceSize wanted)
  let last := piece.isEmpty
  let (cs, cut) ← Utf8.decodePiece last (f.cut ++ piece)
  let freed := f.held && (last || !cs.isEmpty)
  let cs := if freed then '\r' :: cs else cs
  let holds := !last && cs.getLast? == some '\r'
  let decoded := unifyBreaks (if holds then cs.dropLast else cs)
  return {
    bytes := f.bytes.drop piece.length
    cut, decoded
    held := holds || (f.held && !freed)
    pieceBytes := piece.length
    pieceChars := decoded.length }

def read : (fuel : Nat) → (wanted : Nat) → File → Except Utf8.Fault (List Char × File)
  | 0, _, f => .ok ([], f)
  | fuel + 1, wanted, f => do
      let cs := f.decoded.take wanted
      let f := { f with decoded := f.decoded.drop wanted }
      let left := wanted - cs.length
      if left = 0 then return (cs, f)
      let next ← f.fetch left
      if f.bytes.isEmpty && next.decoded.isEmpty then return (cs, next)
      let (more, next) ← read fuel left next
      return (cs ++ more, next)

end File

end Handover.Text
