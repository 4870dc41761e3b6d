namespace Handover.Text.Similarity

def commonStart : List Char → List Char → Nat
  | x :: xs, y :: ys => if x == y then commonStart xs ys + 1 else 0
  | _, _ => 0

structure Part where
  left : Nat
  right : Nat
  length : Nat

def longer (p q : Part) : Part :=
  if p.length < q.length then q else p

/-- The longest common part; of several the first in the left text, then in the right one. -/
def longest (a b : List Char) : Part :=
  let starts (cs : List Char) := List.range (cs.length)
  let partAt (i j : Nat) : Part := ⟨i, j, commonStart (a.drop i) (b.drop j)⟩
  (starts a).foldl (fun best i => (starts b).foldl (fun best j => longer best (partAt i j)) best)
    ⟨0, 0, 0⟩

def matchCount : (fuel : Nat) → List Char → List Char → Nat
  | 0, _, _ => 0
  | fuel + 1, a, b =>
      let p := longest a b
      if p.length = 0 then 0
      else
        matchCount fuel (a.take p.left) (b.take p.right) + p.length +
          matchCount fuel (a.drop (p.left + p.length)) (b.drop (p.right + p.length))

/-- Twice the number of characters matched, out of the characters of both texts. -/
structure Ratio where
  matched : Nat
  total : Nat

def ratio (a b : String) : Ratio :=
  ⟨2 * matchCount (a.length + 1) a.toList b.toList, a.length + b.length⟩

def Ratio.isClose (r : Ratio) : Bool :=
  3 * r.total ≤ 5 * r.matched

def Ratio.le (r s : Ratio) : Bool :=
  r.matched * s.total ≤ s.matched * r.total

def closeMatches (word : String) (candidates : List String) : List String :=
  let close := (candidates.map fun c => (ratio c word, c)).filter fun c => c.1.isClose
  let best := close.mergeSort fun a b =>
    if a.1.le b.1 && b.1.le a.1 then decide (b.2 ≤ a.2) else b.1.le a.1
  ((best.take 3).map Prod.snd).mergeSort fun a b => decide (a ≤ b)

end Handover.Text.Similarity
