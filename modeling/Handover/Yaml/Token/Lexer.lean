import Handover.Yaml.Lexeme.Block
import Handover.Yaml.Lexeme.Plain
import Handover.Yaml.Lexeme.Quoted
import Handover.Yaml.Token

namespace Handover.Yaml

structure KeyPlace where
  number : Nat
  required : Bool
  index : Nat
  line : Nat
  column : Nat
  deriving DecidableEq, Repr

/-- The place in the text, the tokens so far from the last one back, the columns of the open blocks,
and for each open flow collection and the blocks around them where a key may have begun. A key without
a question mark is seen to be one only at its colon. -/
structure Lexer where
  cursor : Cursor
  tokens : List Token := []
  count : Nat := 0
  indent : Int := -1
  outer : List Int := []
  place : Option KeyPlace := none
  outerPlaces : List (Option KeyPlace) := []
  keyAllowed : Bool := true
  done : Bool := false

namespace Lexer

def inFlow (s : Lexer) : Bool :=
  !s.outerPlaces.isEmpty

def push (s : Lexer) (t : Token) : Lexer :=
  { s with tokens := t :: s.tokens, count := s.count + 1 }

def insertAt (s : Lexer) (number : Nat) (t : Token) : Lexer :=
  let later := s.count - number
  { s with tokens := s.tokens.take later ++ t :: s.tokens.drop later, count := s.count + 1 }

def keyReach : Nat := 1024

def isStale (s : Lexer) (p : KeyPlace) : Bool :=
  p.line != s.cursor.line || keyReach < s.cursor.index - p.index

def firstPlace (s : Lexer) : Nat :=
  (s.place :: s.outerPlaces).foldl (fun n p => match p with
    | some p => min n p.number
    | none => n) s.count

def unwind (column : Int) : (outer : List Int) → Lexer → Lexer
  | [], s => s
  | i :: outer, s =>
      if s.indent ≤ column then s
      else unwind column outer ({ s with indent := i, outer }.push (.bracket .blockEnd))

def closeBlocks (s : Lexer) (column : Int) : Lexer :=
  if s.inFlow then s else unwind column s.outer s

/-- Opens a block at a column, unless one is open there; `number` is the token it opens before. -/
def openBlock (s : Lexer) (column number : Nat) (b : Bracket) : Lexer :=
  if s.indent < column then
    { s with indent := column, outer := s.indent :: s.outer }.insertAt number (.bracket b)
  else s

def openHere (s : Lexer) (b : Bracket) : Lexer :=
  if s.inFlow then s else s.openBlock s.cursor.column s.count b

end Lexer

abbrev Lexing (α : Type) := StateT Lexer (Except Fault) α

namespace Lexing

def malformed : Lexing α :=
  throw .malformed

def read (x : Lexeme α) : Lexing α := do
  let s ← get
  let (a, cursor) ← x.run s.cursor
  set { s with cursor }
  return a

def push (t : Token) : Lexing Unit :=
  modify fun s => s.push t

def mark (t : Token) (length : Nat) : Lexing Unit := do
  read (Lexeme.advanceBy length)
  push t

def allowKey (allowed : Bool) : Lexing Unit :=
  modify fun s => { s with keyAllowed := allowed }

def staleChecked : Option KeyPlace → Lexing (Option KeyPlace)
  | none => return none
  | some p => do
      if !(← get).isStale p then return some p
      if p.required then malformed
      return none

def dropStale : Lexing Unit := do
  let s ← get
  let place ← staleChecked s.place
  let outerPlaces ← s.outerPlaces.mapM staleChecked
  set { s with place, outerPlaces }

def forgetPlace : Lexing Unit := do
  let s ← get
  if s.place.any KeyPlace.required then malformed
  set { s with place := none }

def savePlace : Lexing Unit := do
  let s ← get
  if s.keyAllowed then
    forgetPlace
    let c := s.cursor
    let required := !s.inFlow && s.indent == c.column
    modify fun s => { s with place := some ⟨s.count, required, c.index, c.line, c.column⟩ }

def endBlocks : Lexing Unit := do
  modify fun s => s.closeBlocks (-1)
  forgetPlace
  allowKey false

def streamEnd : Lexing Unit := do
  endBlocks
  push .streamEnd
  modify fun s => { s with done := true }

def directive : Lexing Unit := do
  endBlocks
  let d ← read Lexeme.directive
  push (.directive d)

def marker (t : Token) : Lexing Unit := do
  endBlocks
  mark t 3

def flowStart (b : Bracket) : Lexing Unit := do
  savePlace
  modify fun s => { s with place := none, outerPlaces := s.place :: s.outerPlaces }
  allowKey true
  mark (.bracket b) 1

def flowEnd (b : Bracket) : Lexing Unit := do
  forgetPlace
  allowKey false
  mark (.bracket b) 1
  match (← get).outerPlaces with
  | [] => malformed
  | place :: outerPlaces => modify fun s => { s with place, outerPlaces }

def flowEntry : Lexing Unit := do
  forgetPlace
  allowKey true
  mark .flowEntry 1

def requireKeyAllowed : Lexing Unit := do
  let s ← get
  if !s.inFlow && !s.keyAllowed then malformed

def blockEntry : Lexing Unit := do
  requireKeyAllowed
  modify fun s => s.openHere .blockSequence
  forgetPlace
  allowKey true
  mark .blockEntry 1

def mappingMark (t : Token) : Lexing Unit := do
  requireKeyAllowed
  modify fun s => s.openHere .blockMapping
  forgetPlace
  allowKey !(← get).inFlow
  mark t 1

def value : Lexing Unit := do
  match (← get).place with
  | none => mappingMark .value
  | some p =>
      modify fun s =>
        let s := { s with place := none, keyAllowed := false }.insertAt p.number .key
        if s.inFlow then s else s.openBlock p.column p.number .blockMapping
      mark .value 1

def keyable (x : Lexeme α) (token : α → Token) : Lexing Unit := do
  savePlace
  allowKey false
  let a ← read x
  push (token a)

def block (folded : Bool) : Lexing Unit := do
  forgetPlace
  allowKey true
  let text ← read (Lexeme.block folded (← get).indent)
  push (.scalar (.proper (String.ofList text)) false)

def plain : Lexing Unit := do
  savePlace
  let s ← get
  let (text, crosses) ← read (Lexeme.plain s.inFlow (s.indent + 1))
  allowKey crosses
  push (.scalar (.proper (String.ofList text)) true)

def isIndicator (x : Char) : Bool :=
  ("-?:,[]\x7b\x7d#&*!|>'\"%@\x60").toList.contains x

def peek : Lexing Char :=
  return (← get).cursor.peek

def isSpaced : Lexing Bool :=
  return isSeparator (← read (Lexeme.peekAt 1))

def startsPlain : Lexing Bool := do
  let x ← peek
  if !(isSeparator x || isIndicator x) then return true
  let inFlow := (← get).inFlow
  return !(← isSpaced) && (x == '-' || (!inFlow && (x == '?' || x == ':')))

def seesMarker (x : Char) : Lexing Bool := do
  let c := (← get).cursor
  if c.column == 0 && c.peek == x then read (Lexeme.seesMarker [x]) else return false

/-- What a character begins that is a token on some conditions only; `none` if they do not hold. -/
def conditional? (x : Char) : Lexing (Option (Lexing Unit)) := do
  let s ← get
  match x with
  | '%' => return if s.cursor.column == 0 then some directive else none
  | '-' =>
      if ← seesMarker '-' then return some (marker .documentStart)
      else return if ← isSpaced then some blockEntry else none
  | '.' => return if ← seesMarker '.' then some (marker .documentEnd) else none
  | '?' => return if ← pure s.inFlow <||> isSpaced then some (mappingMark .key) else none
  | ':' => return if ← pure s.inFlow <||> isSpaced then some value else none
  | '|' => return if s.inFlow then none else some (block false)
  | '>' => return if s.inFlow then none else some (block true)
  | _ => return none

def token : Lexing Unit := do
  match ← peek with
  | '\x00' => streamEnd
  | '[' => flowStart .flowSequence
  | '\x7b' => flowStart .flowMapping
  | ']' => flowEnd .flowSequenceEnd
  | '\x7d' => flowEnd .flowMappingEnd
  | ',' => flowEntry
  | '*' => keyable Lexeme.anchorName .alias
  | '&' => keyable Lexeme.anchorName .anchor
  | '!' => keyable Lexeme.tag .tag
  | '\'' => keyable Lexeme.quoted fun codes => .scalar (.ofCodes codes) false
  | '"' => keyable Lexeme.quoted fun codes => .scalar (.ofCodes codes) false
  | x =>
      match ← conditional? x with
      | some t => t
      | none => if ← startsPlain then plain else malformed

/-- Past blanks and comments; a key may begin after a line break outside flow collections. -/
def skipGap : (fuel : Nat) → Lexing Unit
  | 0 => return
  | fuel + 1 => do
      read Lexeme.skipLineEnd
      if (← read Lexeme.lineBreak?).isSome then
        modify fun s => { s with keyAllowed := s.keyAllowed || !s.inFlow }
        skipGap fuel

def skipOrderMark : Lexing Unit := do
  let c := (← get).cursor
  if c.index == 0 && c.peek == orderMark then read Lexeme.advance

def step : Lexing Unit := do
  skipOrderMark
  skipGap (← read Lexeme.fuel)
  dropStale
  modify fun s => s.closeBlocks s.cursor.column
  token

end Lexing

/-- All tokens. When one cannot be read, the failure takes the place of the first token that may yet
have turned out to be a key. -/
def Lexer.run : (fuel : Nat) → Lexer → List Token
  | 0, s => s.tokens.reverse
  | fuel + 1, s =>
      match Lexing.dropStale.run s with
      | .error e => (Token.failed e :: s.tokens).reverse
      | .ok (_, s) =>
          match Lexing.step.run s with
          | .error e => s.tokens.reverse.take s.firstPlace ++ [.failed e]
          | .ok (_, next) => if next.done then next.tokens.reverse else run fuel next

def Token.ofInput (i : Input) : List Token :=
  match i.text, i.fault with
  | [], some e => [.failed e]
  | _, _ => Lexer.run (i.text.length + 2) { cursor := { rest := i.text, fault := i.fault } }

end Handover.Yaml
