namespace Handover

/-- What a path starts from. Exactly two slashes in front are kept. -/
inductive Root where
  | relative
  | slash
  | doubleSlash
  deriving DecidableEq, Repr

structure Path where
  root : Root := .relative
  parts : List String := []
  deriving DecidableEq, Repr

namespace Path

def rootOf : List Char → Root
  | '/' :: '/' :: '/' :: _ => .slash
  | '/' :: '/' :: _ => .doubleSlash
  | '/' :: _ => .slash
  | _ => .relative

def splitSlash : List Char → List (List Char)
  | [] => [[]]
  | c :: rest =>
      match splitSlash rest with
      | [] => [[c]]
      | part :: parts => if c == '/' then [] :: part :: parts else (c :: part) :: parts

def ofText (s : String) : Path :=
  { root := rootOf s.toList
    parts := ((splitSlash s.toList).filter fun p => !p.isEmpty && p != ['.']).map String.ofList }

def slashed : List String → String
  | [] => ""
  | [s] => s
  | s :: rest => s ++ "/" ++ slashed rest

def text (p : Path) : String :=
  match p.root, p.parts with
  | .relative, [] => "."
  | .relative, parts => slashed parts
  | .slash, parts => "/" ++ slashed parts
  | .doubleSlash, parts => "//" ++ slashed parts

def isAbsolute (p : Path) : Bool :=
  p.root != .relative

def join (p q : Path) : Path :=
  if q.isAbsolute then q else { p with parts := p.parts ++ q.parts }

def parent (p : Path) : Path :=
  { p with parts := p.parts.dropLast }

def name? (p : Path) : Option String :=
  p.parts.getLast?

/-- Whether a text names a directory, by a slash or a single point at its end. -/
def namesDirectory (s : String) : Bool :=
  match (splitSlash s.toList).getLast? with
  | some last => last.isEmpty || last == ['.']
  | none => false

def withName (p : Path) (name : String) : Path :=
  { p with parts := p.parts.dropLast ++ [name] }

end Path

end Handover
