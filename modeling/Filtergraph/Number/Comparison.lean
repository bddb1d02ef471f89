import Filtergraph.Number.Double

/-!
# Comparing integers and doubles

Integers and doubles are compared by their exact values.  Zero has one value whatever its sign,
and the undefined number is neither equal to, below nor above anything.
-/

namespace Filtergraph

/-- An integer or a double. -/
inductive Number where
  | int (n : Int)
  | double (x : Double)
  deriving DecidableEq, Repr

namespace Number

/-- A place on the extended number line: an end of it, or an integer over a power of two. -/
inductive Place where
  | bottom
  | ratio (num : Int) (power : Nat)
  | top

/-- The place of a number, which the undefined number lacks. -/
def place? : Number -> Option Place
  | .int n => some (.ratio n 0)
  | .double (.finite negative mantissa exponent) =>
    let size : Int := (mantissa * Nat.pow 2 exponent.toNat : Nat)
    some (.ratio (if negative then -size else size) (-exponent).toNat)
  | .double (.infinite negative) => some (if negative then .bottom else .top)
  | .double .undefined => none

/-- The order of two places. -/
def Place.compare : Place -> Place -> Ordering
  | .bottom, .bottom => .eq
  | .bottom, _ => .lt
  | _, .bottom => .gt
  | .top, .top => .eq
  | .top, _ => .gt
  | _, .top => .lt
  | .ratio a i, .ratio b j => Ord.compare (a * (Nat.pow 2 j : Nat)) (b * (Nat.pow 2 i : Nat))

/-- The order of two numbers, unless one of them is undefined. -/
def compare? (a b : Number) : Option Ordering :=
  match a.place?, b.place? with
  | some p, some q => some (p.compare q)
  | _, _ => none

/-- Equality of values. -/
def equal (a b : Number) : Bool :=
  a.compare? b == some .eq

/-- Strict order of values. -/
def less (a b : Number) : Bool :=
  a.compare? b == some .lt

end Number
end Filtergraph
