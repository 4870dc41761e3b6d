namespace Handover.Console.Markup

def startsTag (c : Char) : Bool :=
  ('a' ≤ c && c ≤ 'z') || c == '#' || c == '/' || c == '@'

def tagAt? : List Char → Option (List Char × List Char)
  | '[' :: c :: rest =>
      if startsTag c then
        let inside := rest.takeWhile fun x => x != '[' && x != ']'
        match rest.drop inside.length with
        | ']' :: after => some (c :: inside, after)
        | _ => none
      else none
  | _ => none

def bracketed (cs : List Char) : List Char :=
  '[' :: cs ++ [']']

def slashes (n : Nat) : List Char :=
  List.replicate n '\\'

/-- The text without its tags; `held` counts the backslashes right before. Two of them in front of a
tag stand for one. -/
def plainFrom : (fuel : Nat) → (held : Nat) → List Char → List Char
  | 0, held, cs => slashes held ++ cs
  | _, held, [] => slashes held
  | fuel + 1, held, c :: rest =>
      if c == '\\' then plainFrom fuel (held + 1) rest
      else
        match tagAt? (c :: rest) with
        | some (inside, after) =>
            slashes (held / 2) ++
              (if held % 2 == 1 then bracketed inside else []) ++ plainFrom fuel 0 after
        | none =>
            slashes (if c == '[' then held - 1 else held) ++ c :: plainFrom fuel 0 rest

/-- A text without brackets has no tags and no escapes. -/
def plain (s : String) : String :=
  let cs := s.toList
  if cs.contains '[' then String.ofList (plainFrom (cs.length + 1) 0 cs) else s

def escapeFrom : (fuel : Nat) → (held : Nat) → List Char → List Char
  | 0, held, cs => slashes held ++ cs
  | _, held, [] => slashes held
  | fuel + 1, held, c :: rest =>
      if c == '\\' then escapeFrom fuel (held + 1) rest
      else
        match tagAt? (c :: rest) with
        | some (inside, after) =>
            slashes (2 * held + 1) ++ bracketed inside ++ escapeFrom fuel 0 after
        | none => slashes held ++ c :: escapeFrom fuel 0 rest

/-- Puts a backslash in front of everything that reads as a tag, and one behind a single backslash at
the end. -/
def escape (s : String) : String :=
  let cs := escapeFrom (s.length + 1) 0 s.toList
  String.ofList (if cs.getLast? == some '\\' && cs.dropLast.getLast? != some '\\' then cs ++ ['\\'] else cs)

end Handover.Console.Markup
