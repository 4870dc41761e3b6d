import Handover.Text.Width

namespace Handover.Console

def movesCursor (c : Char) : Bool :=
  [0x07, 0x08, 0x0B, 0x0C, 0x0D].contains c.toNat

def tabWidth : Nat := 8

def expandTabs : (column : Nat) → List Char → List Char
  | _, [] => []
  | column, c :: rest =>
      if c == '\t' then
        let width := tabWidth - column % tabWidth
        List.replicate width ' ' ++ expandTabs (column + width) rest
      else c :: expandTabs (column + Text.charCells c) rest

/-- The lines of a text; none is empty text's only line. -/
def splitLines : List Char → List (List Char)
  | [] => [[]]
  | c :: rest =>
      match splitLines rest with
      | [] => [[c]]
      | line :: lines => if c == '\n' then [] :: line :: lines else (c :: line) :: lines

def lines (s : String) : List String :=
  (splitLines (s.toList.filter fun c => !movesCursor c)).map fun line =>
    String.ofList (expandTabs 0 line)

end Handover.Console
