namespace Handover.Number

/-- The integer nearest to a quotient; a half goes to the even neighbour. -/
def nearest (n d : Nat) : Nat :=
  let q := n / d
  let twice := 2 * (n % d)
  if d < twice || (twice = d && q % 2 = 1) then q + 1 else q

/-- A mantissa of 53 binary digits, of which some stand after the point. -/
structure Rounded where
  mantissa : Nat
  places : Nat
  deriving DecidableEq, Repr

namespace Rounded

def quotient (n d : Nat) : Rounded :=
  let places := 52 - (n / d).log2
  ⟨nearest (n * Nat.pow 2 places) d, places⟩

/-- The whole part of a product, which is rounded before it is cut off. -/
def timesFloor (r : Rounded) (n : Nat) : Nat :=
  let product := r.mantissa * n
  let dropped := Nat.pow 2 (product.log2 - 52)
  nearest product dropped * dropped / Nat.pow 2 r.places

end Rounded

end Handover.Number
