import Handover.Yaml.Tag
import Handover.Yaml.Token

namespace Handover.Yaml

/-- A node with its tag. The nodes inside it are given by their numbers, so that aliases share them. -/
inductive Node where
  | scalar (tag : Tag) (content : Text)
  | sequence (tag : Tag) (items : List Nat)
  | mapping (tag : Tag) (entries : List (Nat × Nat))
  deriving DecidableEq, Repr

namespace Node

def tag : Node → Tag
  | scalar t _ => t
  | sequence t _ => t
  | mapping t _ => t

def retag (t : Tag) : Node → Node
  | scalar _ c => scalar t c
  | sequence _ items => sequence t items
  | mapping _ entries => mapping t entries

def empty : Node :=
  scalar .null ""

end Node

structure Graph where
  nodes : Array Node
  root : Nat
  deriving DecidableEq, Repr

end Handover.Yaml
