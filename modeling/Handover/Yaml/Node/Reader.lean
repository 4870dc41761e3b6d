import Handover.Yaml.Node

namespace Handover.Yaml

structure NodeReader where
  tokens : List Token
  nodes : Array Node := #[]
  anchors : List (String × Nat) := []
  handles : List (String × String) := []

namespace NodeReader

abbrev Reading (α : Type) := StateT NodeReader (Except Fault) α

def peek : Reading Token := do
  match (← get).tokens with
  | .failed e :: _ => throw e
  | t :: _ => return t
  | [] => return .streamEnd

def next : Reading Unit :=
  modify fun s => { s with tokens := s.tokens.drop 1 }

def malformed : Reading α :=
  throw .malformed

def accept (t : Token) : Reading Bool := do
  if (← peek) = t then
    next
    return true
  else return false

def expect (t : Token) : Reading Unit := do
  if !(← accept t) then malformed

def sees (ts : List Token) : Reading Bool :=
  return ts.contains (← peek)

def add (n : Node) : Reading Nat := do
  let s ← get
  set { s with nodes := s.nodes.push n }
  return s.nodes.size

structure Properties where
  anchor : Option String := none
  tag : Option TagName := none

def anchor? : Reading (Option String) := do
  match ← peek with
  | .anchor name =>
      next
      return some name
  | _ => return none

def tag? : Reading (Option TagName) := do
  match ← peek with
  | .tag name =>
      next
      return some name
  | _ => return none

def properties : Reading Properties := do
  match ← anchor? with
  | some anchor => return { anchor := some anchor, tag := ← tag? }
  | none =>
      match ← tag? with
      | some tag => return { anchor := ← anchor?, tag := some tag }
      | none => return {}

def tagText (t : TagName) : Reading String := do
  match t.handle with
  | none => return t.suffix
  | some handle =>
      match (← get).handles.lookup handle with
      | some start => return start ++ t.suffix
      | none => malformed

/-- The tag of a scalar. An exclamation mark alone makes it count as plain. -/
def scalarTag (tag : Option String) (content : Text) (plain : Bool) : Tag :=
  let implicit (asPlain : Bool) : Tag :=
    match content with
    | .proper s => if asPlain then Tag.ofPlain s else .text
    | .ill _ _ => .text
  match tag with
  | none => implicit plain
  | some "!" => implicit true
  | some s => Tag.ofText s

def collectionTag (tag : Option String) (default : Tag) : Tag :=
  match tag with
  | none => default
  | some "!" => default
  | some s => Tag.ofText s

def note (anchor : Option String) (n : Nat) : Reading Unit :=
  match anchor with
  | none => return
  | some name => modify fun s => { s with anchors := (name, n) :: s.anchors }

def requireNew (anchor : Option String) : Reading Unit := do
  match anchor with
  | none => return
  | some name => if ((← get).anchors.lookup name).isSome then malformed

/-- A collection. Inside it its anchor stands for an empty one. -/
def collection (anchor : Option String) (empty : Node) (content : Reading Node) : Reading Nat := do
  requireNew anchor
  if anchor.isSome then note anchor (← add empty)
  let n ← add (← content)
  note anchor n
  return n

mutual

/-- A node. `inBlock` allows block collections, `indentless` a block sequence that is not indented. -/
def node : (fuel : Nat) → (inBlock indentless : Bool) → Reading Nat
  | 0, _, _ => malformed
  | fuel + 1, inBlock, indentless => do
      match ← peek with
      | .alias name =>
          next
          match (← get).anchors.lookup name with
          | some n => return n
          | none => malformed
      | _ =>
          let p ← properties
          let tag ← p.tag.mapM tagText
          let sequence (items : Reading (List Nat)) : Reading Nat := do
            let t := collectionTag tag .sequence
            collection p.anchor (.sequence t []) do return .sequence t (← items)
          let mapping (entries : Reading (List (Nat × Nat))) : Reading Nat := do
            let t := collectionTag tag .mapping
            collection p.anchor (.mapping t []) do return .mapping t (← entries)
          let scalar (content : Text) (plain : Bool) : Reading Nat := do
            requireNew p.anchor
            let n ← add (.scalar (scalarTag tag content plain) content)
            note p.anchor n
            return n
          match ← peek with
          | .scalar content plain =>
              next
              scalar content plain
          | .bracket .flowSequence => sequence (do next; flowItems fuel true)
          | .bracket .flowMapping => mapping (do next; flowEntries fuel true)
          | t =>
              if indentless && t = .blockEntry then sequence (indentlessItems fuel)
              else if inBlock && t = .bracket .blockSequence then
                sequence (do next; blockItems fuel)
              else if inBlock && t = .bracket .blockMapping then
                mapping (do next; blockEntries fuel)
              else if p.anchor.isSome || p.tag.isSome then
                scalar "" tag.isNone
              else malformed

def nodeUnless : (fuel : Nat) → (ends : List Token) → (inBlock indentless : Bool) → Reading Nat
  | 0, _, _, _ => malformed
  | fuel + 1, ends, inBlock, indentless => do
      if ← sees ends then add .empty else node fuel inBlock indentless

def blockItems : (fuel : Nat) → Reading (List Nat)
  | 0 => malformed
  | fuel + 1 => do
      if ← accept .blockEntry then
        let n ← nodeUnless fuel [.blockEntry, .bracket .blockEnd] true false
        return n :: (← blockItems fuel)
      else
        expect (.bracket .blockEnd)
        return []

def indentlessItems : (fuel : Nat) → Reading (List Nat)
  | 0 => malformed
  | fuel + 1 => do
      if ← accept .blockEntry then
        let n ← nodeUnless fuel [.blockEntry, .key, .value, .bracket .blockEnd] true false
        return n :: (← indentlessItems fuel)
      else return []

def blockEntries : (fuel : Nat) → Reading (List (Nat × Nat))
  | 0 => malformed
  | fuel + 1 => do
      let ends : List Token := [.key, .value, .bracket .blockEnd]
      if ← accept .key then
        let k ← nodeUnless fuel ends true true
        let v ← if ← accept .value then nodeUnless fuel ends true true else add .empty
        return (k, v) :: (← blockEntries fuel)
      else
        expect (.bracket .blockEnd)
        return []

/-- The items of a flow sequence up to its end. One may be a mapping of a single entry. -/
def flowItems : (fuel : Nat) → (first : Bool) → Reading (List Nat)
  | 0, _ => malformed
  | fuel + 1, first => do
      let close : Token := .bracket .flowSequenceEnd
      if ← accept close then return []
      else
        if !first then expect .flowEntry
        if ← accept .key then
          let k ← nodeUnless fuel [.value, .flowEntry, close] false false
          let v ←
            if ← accept .value then nodeUnless fuel [.flowEntry, close] false false
            else add .empty
          let n ← add (.mapping .mapping [(k, v)])
          return n :: (← flowItems fuel false)
        else if ← accept close then return []
        else
          let n ← node fuel false false
          return n :: (← flowItems fuel false)

def flowEntries : (fuel : Nat) → (first : Bool) → Reading (List (Nat × Nat))
  | 0, _ => malformed
  | fuel + 1, first => do
      let close : Token := .bracket .flowMappingEnd
      if ← accept close then return []
      else
        if !first then expect .flowEntry
        if ← accept .key then
          let k ← nodeUnless fuel [.value, .flowEntry, close] false false
          let v ←
            if ← accept .value then nodeUnless fuel [.flowEntry, close] false false
            else add .empty
          return (k, v) :: (← flowEntries fuel false)
        else if ← accept close then return []
        else
          let k ← node fuel false false
          return (k, ← add .empty) :: (← flowEntries fuel false)

end

def defaultHandles : List (String × String) :=
  [("!", "!"), ("!!", Tag.corePrefix)]

/-- The directives before a document. Only the first of the two versions of the format can be read. -/
def directives : (fuel : Nat) → (versioned : Bool) → (handles : List (String × String)) →
    Reading Unit
  | 0, _, _ => malformed
  | fuel + 1, versioned, handles => do
      match ← peek with
      | .directive (.version major) =>
          next
          if versioned || major ≠ 1 then malformed
          directives fuel true handles
      | .directive (.tag handle start) =>
          next
          if (handles.lookup handle).isSome then malformed
          directives fuel versioned ((handle, start) :: handles)
      | .directive .other =>
          next
          directives fuel versioned handles
      | _ => modify fun s => { s with handles := handles ++ defaultHandles }

def skipEnds : (fuel : Nat) → Reading Unit
  | 0 => malformed
  | fuel + 1 => do
      if ← accept .documentEnd then skipEnds fuel

/-- After a document only marks of its end may follow. Directives are read before it is seen that there
is another document. -/
def finish (fuel : Nat) : Reading Unit := do
  skipEnds fuel
  if !(← accept .streamEnd) then
    directives fuel false []
    malformed

def document (fuel : Nat) : Reading (Option Graph) := do
  match ← peek with
  | .streamEnd => return none
  | t =>
      let explicit :=
        match t with
        | .directive _ => true
        | .documentStart => true
        | _ => false
      let root ←
        if explicit then
          directives fuel false []
          expect .documentStart
          match ← peek with
          | .directive _ => add .empty
          | _ => nodeUnless fuel [.documentStart, .documentEnd, .streamEnd] true false
        else
          modify fun s => { s with handles := defaultHandles }
          node fuel true false
      finish fuel
      return some ⟨(← get).nodes, root⟩

end NodeReader

def Graph.ofTokens? (tokens : List Token) : Except Fault (Option Graph) :=
  match (NodeReader.document (3 * tokens.length + 3)).run { tokens } with
  | .ok (g, _) => .ok g
  | .error e => .error e

end Handover.Yaml
