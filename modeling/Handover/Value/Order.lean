import Handover.Number.Binary64
import Handover.Value.Basic

namespace Handover

/-- A number on the line with both infinities: finite ones as `mantissa * 2 ^ exponent`. -/
inductive Point where
  | below
  | finite (mantissa : Int) (exponent : Int)
  | above
  deriving DecidableEq, Repr

namespace Point

def compare : Point → Point → Ordering
  | below, below => .eq
  | below, _ => .lt
  | _, below => .gt
  | above, above => .eq
  | above, _ => .gt
  | _, above => .lt
  | finite m e, finite n f =>
      let low := min e f
      Ord.compare (m * Nat.pow 2 (e - low).toNat) (n * Nat.pow 2 (f - low).toNat)

end Point

namespace Value

def point? : Value → Option Point
  | bool b => some (.finite (if b then 1 else 0) 0)
  | int n => some (.finite n 0)
  | float x =>
      match Number.Binary64.ofFloat x with
      | .nan => none
      | .infinite negative => some (if negative then .below else .above)
      | .finite negative m e => some (.finite (if negative then -(m : Int) else m) e)
  | _ => none

def isNumber : Value → Bool
  | bool _ => true
  | int _ => true
  | float _ => true
  | _ => false

def codes? : Value → Option (List Nat)
  | text t => some t.codes
  | _ => none

/-- The order of two values of one kind; `none` when they cannot be ordered. Not-a-number is put
after every other number. -/
def order? (a b : Value) : Option Ordering :=
  match a, b with
  | bytes s, bytes t => some (compareOn (List.map UInt8.toNat) s t)
  | date c, date d => some (Ord.compare c.ordinal d.ordinal)
  | dateTime s, dateTime t =>
      if s.offset.isSome = t.offset.isSome then some (Ord.compare s.instant t.instant) else none
  | a, b =>
      match a.codes?, b.codes?, a.point?, b.point? with
      | some s, some t, _, _ => some (Ord.compare s t)
      | _, _, some p, some q => some (p.compare q)
      | _, _, _, _ => if a.isNumber && b.isNumber then some .gt else none

/-- Whether two keys of a mapping are the same: numbers by what they are worth, whatever their
type. -/
def sameKey (a b : Value) : Bool :=
  match a, b with
  | null, null => true
  | a, b => a.order? b == some .eq

/-- Puts an entry under its key: an old entry keeps its place and its key. -/
def insertEntry (key : Value) (a : α) : List (Value × α) → List (Value × α)
  | [] => [(key, a)]
  | (k, b) :: rest => if k.sameKey key then (k, a) :: rest else (k, b) :: insertEntry key a rest

def insertSorted (a : Value) : List Value → Option (List Value)
  | [] => some [a]
  | b :: rest =>
      match a.order? b with
      | none => none
      | some .lt => some (a :: b :: rest)
      | some _ => (insertSorted a rest).map (b :: ·)

def sorted? : List Value → Option (List Value)
  | [] => some []
  | a :: rest => (sorted? rest).bind (insertSorted a)

end Value

end Handover
