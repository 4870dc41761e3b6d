import Handover.Yaml.Cursor

namespace Handover.Yaml.Lexeme

inductive Chomping where
  | strip
  | clip
  | keep
  deriving DecidableEq, Repr

structure BlockHeader where
  chomping : Chomping
  increment : Option Nat

def chompingMark : Lexeme Chomping := do
  match ← peek with
  | '+' =>
      advance
      return .keep
  | '-' =>
      advance
      return .strip
  | _ => return .clip

def incrementDigit : Lexeme (Option Nat) := do
  let x ← peek
  if !isDigit x then return none
  if x == '0' then malformed
  advance
  return some (x.toNat - 48)

def blockHeader : Lexeme BlockHeader := do
  let header : BlockHeader ←
    match ← chompingMark with
    | .clip =>
        match ← incrementDigit with
        | none => pure ⟨.clip, none⟩
        | some n => pure ⟨← chompingMark, some n⟩
    | chomping => pure ⟨chomping, ← incrementDigit⟩
  if !isGap (← peek) then malformed
  skipLineEnd
  if !isBreakOrEnd (← peek) then malformed
  skipBreak
  return header

def leadingLines : (fuel : Nat) → (deepest : Nat) → Lexeme (List Char × Nat)
  | 0, deepest => return ([], deepest)
  | fuel + 1, deepest => do
      let spaces ← span isSpace
      let column := (← get).column
      let deepest := if spaces.isEmpty then deepest else max deepest column
      match ← lineBreak? with
      | none => return ([], deepest)
      | some x =>
          let (more, deepest) ← leadingLines fuel deepest
          return (x :: more, deepest)

def skipIndent (indent : Nat) : Lexeme Unit := do
  let c ← get
  advanceBy ((c.rest.take (indent - c.column)).takeWhile isSpace).length

def emptyLines (indent : Nat) : (fuel : Nat) → Lexeme (List Char)
  | 0 => return []
  | fuel + 1 => do
      skipIndent indent
      match ← lineBreak? with
      | none => return []
      | some x => return x :: (← emptyLines indent fuel)

def beginsLine (indent : Nat) : Lexeme Bool := do
  let c ← get
  return c.column = indent && c.peek != endMark

/-- The lines of a block scalar, each with what joins it to the next one. `breaks` are the empty lines
before the next line. -/
def blockLines (folded : Bool) (chomping : Chomping) (indent : Nat) :
    (fuel : Nat) → (breaks : List Char) → Lexeme (List Char)
  | 0, _ => return []
  | fuel + 1, breaks => do
      let first ← peek
      let line ← span fun x => !isBreakOrEnd x
      let lineBreak := (← lineBreak?).toList
      let after ← emptyLines indent (← Lexeme.fuel)
      if ← beginsLine indent then
        let joins :=
          if folded && lineBreak == ['\n'] && !isSpaceOrTab first && !isSpaceOrTab (← peek) then
            if after.isEmpty then [' '] else []
          else lineBreak
        return breaks ++ line ++ joins ++ (← blockLines folded chomping indent fuel after)
      else
        let tail :=
          match chomping with
          | .strip => []
          | .clip => lineBreak
          | .keep => lineBreak ++ after
        return breaks ++ line ++ tail

/-- A block scalar, from its indicator on, inside a block that is indented by `parent`. -/
def block (folded : Bool) (parent : Int) : Lexeme (List Char) := do
  advance
  let header ← blockHeader
  let least := (max (parent + 1) 1).toNat
  let fuel ← fuel
  let (breaks, indent) ←
    match header.increment with
    | none => do
        let (breaks, deepest) ← leadingLines fuel 0
        pure (breaks, max least deepest)
    | some n => do
        let indent := least + n - 1
        pure (← emptyLines indent fuel, indent)
  if ← beginsLine indent then blockLines folded header.chomping indent fuel breaks
  else if header.chomping = .keep then return breaks
  else return []

end Handover.Yaml.Lexeme
