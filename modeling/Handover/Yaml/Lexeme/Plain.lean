import Handover.Yaml.Cursor

namespace Handover.Yaml.Lexeme

def endsPlain (inFlow : Bool) (k : Nat) : Lexeme Bool := do
  let x ← peekAt k
  if isSeparator x then return true
  else if x == ':' then
    let next ← peekAt (k + 1)
    return isSeparator next || (inFlow && isFlowPunctuation next)
  else return inFlow && (x == '?' || isFlowPunctuation x)

def plainLength (inFlow : Bool) : (fuel : Nat) → (k : Nat) → Lexeme Nat
  | 0, k => return k
  | fuel + 1, k => do
      if ← endsPlain inFlow k then return k else plainLength inFlow fuel (k + 1)

/-- The line breaks from here on and the spaces between them; `none` if a marker between documents
comes after one. -/
def plainBreaks : (fuel : Nat) → Lexeme (Option (List Char))
  | 0 => return none
  | fuel + 1 => do
      if ← seesDocumentMarker then return none
      skip isSpace
      match ← lineBreak? with
      | none => return some []
      | some x => return (← plainBreaks fuel).map (x :: ·)

def plainGap : Lexeme (List Char × Bool) := do
  let spaces ← span isSpace
  match ← lineBreak? with
  | none => return (spaces, false)
  | some x =>
      match ← plainBreaks (← fuel) with
      | none => return ([], true)
      | some breaks =>
          if x != '\n' then return (x :: breaks, true)
          else if breaks.isEmpty then return ([' '], true)
          else return (breaks, true)

def plainBody (inFlow : Bool) (indent : Int) :
    (fuel : Nat) → (gap : List Char) → (crosses : Bool) → Lexeme (List Char × Bool)
  | 0, _, crosses => return ([], crosses)
  | fuel + 1, gap, crosses => do
      let length ← if (← peek) == '#' then pure 0 else plainLength inFlow (← Lexeme.fuel) 0
      if length = 0 then return ([], crosses)
      let word := (← get).rest.take length
      advanceBy length
      let (next, crosses) ← plainGap
      let c ← get
      if next.isEmpty || c.peek == '#' || (!inFlow && c.column < indent) then
        return (gap ++ word, crosses)
      else
        let (more, crosses) ← plainBody inFlow indent fuel next crosses
        return (gap ++ word ++ more, crosses)

/-- A plain scalar, and whether a line break follows it. Outside flow collections its further lines are
indented by `indent` or more. -/
def plain (inFlow : Bool) (indent : Int) : Lexeme (List Char × Bool) := do
  plainBody inFlow indent (← fuel) [] false

end Handover.Yaml.Lexeme
