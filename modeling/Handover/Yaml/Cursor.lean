import Handover.Yaml.Fault

namespace Handover.Yaml

/-- Stands for the character at the end of a text; no document holds it. -/
def endMark : Char := '\x00'

/-- The mark of byte order; it takes up no column. -/
def orderMark : Char := '\ufeff'

def isBreak (c : Char) : Bool :=
  c == '\n' || c == '\x85' || c == '\u2028' || c == '\u2029'

def isBreakOrEnd (c : Char) : Bool :=
  isBreak c || c == endMark

def isGap (c : Char) : Bool :=
  c == ' ' || isBreakOrEnd c

def isSeparator (c : Char) : Bool :=
  c == '\t' || isGap c

def isSpace (c : Char) : Bool :=
  c == ' '

def isSpaceOrTab (c : Char) : Bool :=
  c == ' ' || c == '\t'

def isDigit (c : Char) : Bool :=
  '0' ≤ c && c ≤ '9'

def isWordChar (c : Char) : Bool :=
  isDigit c || ('a' ≤ c && c ≤ 'z') || ('A' ≤ c && c ≤ 'Z') || c == '-' || c == '_'

def isFlowPunctuation (c : Char) : Bool :=
  c == ',' || c == '[' || c == ']' || c == '\x7b' || c == '\x7d'

def isAllowed (c : Char) : Bool :=
  let n := c.toNat
  n == 0x09 || n == 0x0A || n == 0x0D || (0x20 ≤ n && n ≤ 0x7E) || n == 0x85 ||
    (0xA0 ≤ n && n ≤ 0xD7FF) || (0xE000 ≤ n && n ≤ 0xFFFD) || 0x10000 ≤ n

/-- The text of a document as far as it can be read, and why it cannot be read any further. -/
structure Input where
  text : List Char
  fault : Option Fault := none

structure Cursor where
  rest : List Char
  fault : Option Fault := none
  index : Nat := 0
  line : Nat := 0
  column : Nat := 0

namespace Cursor

def peek (c : Cursor) : Char :=
  c.rest.headD endMark

def step (c : Cursor) : Cursor :=
  match c.rest with
  | [] => c
  | x :: rest =>
      if isBreak x then { c with rest, index := c.index + 1, line := c.line + 1, column := 0 }
      else if x == orderMark then { c with rest, index := c.index + 1 }
      else { c with rest, index := c.index + 1, column := c.column + 1 }

def stepBy (c : Cursor) : Nat → Cursor
  | 0 => c
  | n + 1 => c.step.stepBy n

end Cursor

/-- A reading of one part of a text. It fails as soon as it asks for a character that cannot be
read. -/
abbrev Lexeme (α : Type) := StateT Cursor (Except Fault) α

namespace Lexeme

def malformed : Lexeme α :=
  throw .malformed

def ahead (n : Nat) : Lexeme (List Char) := do
  let c ← get
  match c.fault with
  | none => return c.rest.take n
  | some e => if c.rest.length < n then throw e else return c.rest.take n

def peek : Lexeme Char :=
  return (← get).peek

def peekAt (k : Nat) : Lexeme Char :=
  return ((← ahead (k + 1)).drop k).headD endMark

def advanceBy (n : Nat) : Lexeme Unit := do
  modify fun c => c.stepBy n
  let _ ← ahead 1

def advance : Lexeme Unit :=
  advanceBy 1

def span (p : Char → Bool) : Lexeme (List Char) := do
  let taken := (← get).rest.takeWhile p
  advanceBy taken.length
  return taken

def skip (p : Char → Bool) : Lexeme Unit := do
  let _ ← span p

def lineBreak? : Lexeme (Option Char) := do
  let x ← peek
  if isBreak x then
    advance
    return some (if x == '\x85' then '\n' else x)
  else return none

def skipBreak : Lexeme Unit := do
  let _ ← lineBreak?

def skipLineEnd : Lexeme Unit := do
  skip isSpace
  if (← peek) == '#' then skip fun x => !isBreakOrEnd x

def seesMarker (marks : List Char) : Lexeme Bool := do
  let row ← ahead 3
  if marks.any fun x => row == [x, x, x] then return isSeparator (← peekAt 3)
  else return false

def seesDocumentMarker : Lexeme Bool :=
  seesMarker ['-', '.']

def fuel : Lexeme Nat :=
  return (← get).rest.length + 1

end Lexeme

end Handover.Yaml
