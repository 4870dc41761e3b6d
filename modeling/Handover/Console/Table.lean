import Handover.Text.Width

namespace Handover.Console

structure Table where
  title : String
  head : List String
  body : List (List String)
  deriving DecidableEq, Repr

namespace Table

structure Rule where
  left : String
  line : String
  cross : String
  right : String

def top : Rule := ⟨"┏", "━", "┳", "┓"⟩

def middle : Rule := ⟨"┡", "━", "╇", "┩"⟩

def bottom : Rule := ⟨"└", "─", "┴", "┘"⟩

def repeated (n : Nat) (s : String) : String :=
  (List.replicate n s).foldl (· ++ ·) ""

def separated (separator : String) : List String → String
  | [] => ""
  | [s] => s
  | s :: rest => s ++ separator ++ separated separator rest

def cell (width : Nat) (s : String) : String :=
  " " ++ s ++ repeated (width - Text.cells s) " " ++ " "

def Rule.draw (r : Rule) (widths : List Nat) : String :=
  r.left ++ separated r.cross (widths.map fun w => repeated (w + 2) r.line) ++ r.right

def row (edge : String) (widths : List Nat) (cells : List String) : String :=
  edge ++ separated edge (List.zipWith cell widths cells) ++ edge

def widths (t : Table) : List Nat :=
  t.body.foldl (fun ws r => List.zipWith (fun w s => max w (Text.cells s)) ws r)
    (t.head.map Text.cells)

def width (t : Table) : Nat :=
  t.widths.foldl (fun n w => n + w + 3) 1

def titleLine (t : Table) : String :=
  repeated ((t.width - Text.cells t.title) / 2) " " ++ t.title

def lines (t : Table) : List String :=
  [t.titleLine, top.draw t.widths, row "┃" t.widths t.head, middle.draw t.widths] ++
    t.body.map (row "│" t.widths) ++ [bottom.draw t.widths]

end Table

end Handover.Console
