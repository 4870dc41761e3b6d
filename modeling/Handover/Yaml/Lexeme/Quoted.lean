import Handover.Yaml.Lexeme.Name

namespace Handover.Yaml.Lexeme

def shortEscape? : Char → Option Nat
  | '0' => some 0x00
  | 'a' => some 0x07
  | 'b' => some 0x08
  | 't' => some 0x09
  | '\t' => some 0x09
  | 'n' => some 0x0A
  | 'v' => some 0x0B
  | 'f' => some 0x0C
  | 'r' => some 0x0D
  | 'e' => some 0x1B
  | ' ' => some 0x20
  | '"' => some 0x22
  | '\\' => some 0x5C
  | '/' => some 0x2F
  | 'N' => some 0x85
  | '_' => some 0xA0
  | 'L' => some 0x2028
  | 'P' => some 0x2029
  | _ => none

def codeWidth? : Char → Option Nat
  | 'x' => some 2
  | 'u' => some 4
  | 'U' => some 8
  | _ => none

def foldedBreaks : (fuel : Nat) → Lexeme (List Nat)
  | 0 => malformed
  | fuel + 1 => do
      if ← seesDocumentMarker then malformed
      skip isSpaceOrTab
      match ← lineBreak? with
      | none => return []
      | some x => return x.toNat :: (← foldedBreaks fuel)

def quotedBlanks : Lexeme (List Nat) := do
  let blanks ← span isSpaceOrTab
  if (← peek) == endMark then malformed
  match ← lineBreak? with
  | none => return blanks.map Char.toNat
  | some x =>
      let breaks ← foldedBreaks (← fuel)
      if x != '\n' then return x.toNat :: breaks
      else if breaks.isEmpty then return [0x20]
      else return breaks

/-- An escape, from after its backslash on. A number that is no code point is refused before the text
goes on. -/
def escape : Lexeme (List Nat) := do
  let x ← peek
  match shortEscape? x, codeWidth? x with
  | some n, _ =>
      advance
      return [n]
  | none, some width =>
      advance
      let n ← hexNumber width
      if 0x10FFFF < n then throw (.codePoint n)
      advanceBy width
      return [n]
  | none, none =>
      match ← lineBreak? with
      | some _ => foldedBreaks (← fuel)
      | none => malformed

def quotedPiece (double : Bool) : Lexeme (Option (List Nat)) := do
  let x ← peek
  if x == '\'' && !double then
    if (← peekAt 1) == '\'' then
      advanceBy 2
      return some [0x27]
    else
      advance
      return none
  else if x == '"' && double then
    advance
    return none
  else if x == '\\' && double then
    advance
    return some (← escape)
  else if isSeparator x then return some (← quotedBlanks)
  else
    advance
    return some [x.toNat]

def quotedBody (double : Bool) : (fuel : Nat) → Lexeme (List Nat)
  | 0 => malformed
  | fuel + 1 => do
      match ← quotedPiece double with
      | none => return []
      | some codes => return codes ++ (← quotedBody double fuel)

/-- A quoted scalar, from its opening quote on, by its code points: an escape may name a surrogate. -/
def quoted : Lexeme (List Nat) := do
  let double := (← peek) == '"'
  let fuel ← fuel
  advance
  quotedBody double fuel

end Handover.Yaml.Lexeme
