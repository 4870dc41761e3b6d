import Handover.Yaml.Cursor

namespace Handover.Yaml

/-- A tag as written: a handle that a directive may explain, and what follows it. -/
structure TagName where
  handle : Option String
  suffix : String
  deriving DecidableEq, Repr

inductive Directive where
  | version (major : Nat)
  | tag (handle tagPrefix : String)
  | other
  deriving DecidableEq, Repr

namespace Lexeme

def endsName (c : Char) : Bool :=
  isSeparator c || ['?', ':', ',', ']', '\x7d', '%', '@', '\x60'].contains c

def anchorName : Lexeme String := do
  advance
  let name ← span isWordChar
  if name.isEmpty || !endsName (← peek) then malformed
  return String.ofList name

def tagHandle : Lexeme String := do
  if (← peek) != '!' then malformed
  advance
  if (← peek) == ' ' then return "!"
  let word ← span isWordChar
  if (← peek) != '!' then malformed
  advance
  return String.ofList ('!' :: word ++ ['!'])

def isUriChar (c : Char) : Bool :=
  isWordChar c || (";/?:@&=+$,.!~*'()[]%").toList.contains c

def hexValue? (c : Char) : Option Nat :=
  if isDigit c then some (c.toNat - 48)
  else if 'a' ≤ c && c ≤ 'f' then some (c.toNat - 87)
  else if 'A' ≤ c && c ≤ 'F' then some (c.toNat - 55)
  else none

def hexNumber (width : Nat) : Lexeme Nat := do
  let digits ← (List.range width).mapM fun k => do
    match hexValue? (← peekAt k) with
    | some d => return d
    | none => malformed
  return digits.foldl (fun n d => n * 16 + d) 0

def escapedBytes : (fuel : Nat) → Lexeme Bytes
  | 0 => malformed
  | fuel + 1 => do
      if (← peek) != '%' then return []
      advance
      let n ← hexNumber 2
      advanceBy 2
      return UInt8.ofNat n :: (← escapedBytes fuel)

/-- The text of a tag with its escapes undone; each row of escapes is one piece of UTF-8. -/
def uriText : (fuel : Nat) → Lexeme (List Char)
  | 0 => malformed
  | fuel + 1 => do
      let x ← peek
      if !isUriChar x then return []
      if x == '%' then
        match Text.Utf8.decode? (← escapedBytes fuel) with
        | none => malformed
        | some s => return s.toList ++ (← uriText fuel)
      else
        advance
        return x :: (← uriText fuel)

def tagUri : Lexeme String := do
  if !isUriChar (← peek) then malformed
  return String.ofList (← uriText (← fuel))

def hasHandle (k : Nat) : (fuel : Nat) → Lexeme Bool
  | 0 => return false
  | fuel + 1 => do
      let x ← peekAt k
      if isGap x then return false
      else if x == '!' then return true
      else hasHandle (k + 1) fuel

def tagBody : Lexeme TagName := do
  let x ← peekAt 1
  if x == '<' then
    advanceBy 2
    let suffix ← tagUri
    if (← peek) != '>' then malformed
    advance
    return ⟨none, suffix⟩
  else if isSeparator x then
    advance
    return ⟨none, "!"⟩
  else if ← hasHandle 1 (← fuel) then
    let handle ← tagHandle
    return ⟨some handle, ← tagUri⟩
  else
    advance
    return ⟨some "!", ← tagUri⟩

def tag : Lexeme TagName := do
  let name ← tagBody
  if !isGap (← peek) then malformed
  return name

def versionNumber : Lexeme Nat := do
  let digits ← span isDigit
  if digits.isEmpty then malformed
  if 4300 < digits.length then throw (.tooManyDigits digits.length)
  return digits.foldl (fun n d => n * 10 + (d.toNat - 48)) 0

def versionDirective : Lexeme Directive := do
  skip isSpace
  let major ← versionNumber
  if (← peek) != '.' then malformed
  advance
  let _ ← versionNumber
  if !isGap (← peek) then malformed
  return .version major

def tagDirective : Lexeme Directive := do
  skip isSpace
  let handle ← tagHandle
  if (← peek) != ' ' then malformed
  skip isSpace
  let tagPrefix ← tagUri
  if !isGap (← peek) then malformed
  return .tag handle tagPrefix

def directiveBody (name : List Char) : Lexeme Directive := do
  if name == "YAML".toList then versionDirective
  else if name == "TAG".toList then tagDirective
  else
    skip fun x => !isBreakOrEnd x
    return .other

def directive : Lexeme Directive := do
  advance
  let name ← span isWordChar
  if name.isEmpty || !isGap (← peek) then malformed
  let d ← directiveBody name
  skipLineEnd
  if !isBreakOrEnd (← peek) then malformed
  skipBreak
  return d

end Lexeme

end Handover.Yaml
