namespace Handover.Yaml

/-- The text so far from its end back. `spaced` tells that the next mark needs no space in front,
`fresh` that the line holds nothing yet but spaces and marks of blocks. -/
structure Page where
  written : List Char := []
  column : Nat := 0
  spaced : Bool := true
  fresh : Bool := true

namespace Page

def width : Nat := 80

def write (p : Page) (cs : List Char) : Page :=
  { p with written := cs.reverse ++ p.written, column := p.column + cs.length }

def lineBreak (p : Page) : Page :=
  { written := '\n' :: p.written }

/-- Goes on at a column, on a new line unless this one is still free up to there. -/
def goTo (p : Page) (indent : Nat) : Page :=
  let p :=
    if !p.fresh || indent < p.column || (p.column == indent && !p.spaced) then p.lineBreak else p
  if p.column < indent then
    { p.write (List.replicate (indent - p.column) ' ') with spaced := true }
  else p

def settle (p : Page) : Page :=
  { p with spaced := false, fresh := false }

def mark (p : Page) (cs : List Char) : Page :=
  (p.write cs).settle

def spacedMark (p : Page) (cs : List Char) : Page :=
  if p.spaced then p.mark cs else p.mark (' ' :: cs)

def blockMark (p : Page) (cs : List Char) : Page :=
  { p.spacedMark cs with fresh := p.fresh }

def text (p : Page) : List Char :=
  p.written.reverse

end Page

end Handover.Yaml
