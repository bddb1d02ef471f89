import Filtergraph.Number.Double

/-!
# Shortest decimals

Every finite double is the nearest one to all the decimals of an interval around it.  The module
finds the decimal of that interval with the fewest digits, and the one nearest to the double when
there are several.
-/

namespace Filtergraph

/-- The number `digits * 10 ^ exponent`. -/
structure Decimal where
  /-- The digits, read as one number. -/
  digits : Nat
  /-- The power of ten of the last digit. -/
  exponent : Int
  deriving DecidableEq, Repr

namespace Decimal

/-- Drops up to `limit` zeros at the end. -/
def dropZeros : Nat -> Decimal -> Decimal
  | 0, d => d
  | limit + 1, d =>
    if d.digits != 0 && d.digits % 10 == 0 then dropZeros limit ⟨d.digits / 10, d.exponent + 1⟩
    else d

/-- The exponent of the greatest power of ten up to `num / den`, for a ratio that is not zero. -/
def order (num den : Nat) : Int :=
  if den ≤ num then ((toString (num / den)).length : Int) - 1
  else
    match (List.range 400).find? fun k => decide (den ≤ num * Nat.pow 10 (k + 1)) with
    | some k => -((k : Int) + 1)
    | none => 0

end Decimal

/-- A double and the ends of the interval that rounds to it, as multiples of one unit. -/
structure RoundingInterval where
  /-- The lower end. -/
  lower : Nat
  /-- The double itself. -/
  centre : Nat
  /-- The upper end. -/
  upper : Nat
  /-- The unit is this power of two. -/
  unit : Int
  /-- The ends belong to the interval. -/
  closed : Bool

namespace RoundingInterval

/-- The interval of the double `mantissa * 2 ^ exponent`.  Its lower part is half as wide below a
power of two, and its ends belong to it when the mantissa is even. -/
def around (mantissa : Nat) (exponent : Int) : RoundingInterval where
  lower :=
    if mantissa = Nat.pow 2 52 ∧ Double.leastExponent < exponent then 4 * mantissa - 1
    else 4 * mantissa - 2
  centre := 4 * mantissa
  upper := 4 * mantissa + 2
  unit := exponent - 2
  closed := mantissa % 2 == 0

/-- The factor that turns multiples of `10 ^ power` into the common measure of an interval. -/
def gridScale (interval : RoundingInterval) (power : Int) : Nat :=
  Nat.pow 10 power.toNat * Nat.pow 2 (-interval.unit).toNat

/-- The factor that turns the unit of the interval into the common measure. -/
def unitScale (interval : RoundingInterval) (power : Int) : Nat :=
  Nat.pow 2 interval.unit.toNat * Nat.pow 10 (-power).toNat

/-- Whether `digits * 10 ^ power` lies in the interval. -/
def holds (interval : RoundingInterval) (power : Int) (digits : Nat) : Bool :=
  let point := digits * interval.gridScale power
  let lower := interval.lower * interval.unitScale power
  let upper := interval.upper * interval.unitScale power
  if interval.closed then lower ≤ point && point ≤ upper else lower < point && point < upper

/-- The nearer of the two neighbours of the double among the multiples of `10 ^ power`, if the
interval holds one of them.  A tie goes to the even digit. -/
def nearest? (interval : RoundingInterval) (power : Int) : Option Nat :=
  let centre := interval.centre * interval.unitScale power
  let below := centre / interval.gridScale power
  let twice := 2 * (centre % interval.gridScale power)
  match interval.holds power below, interval.holds power (below + 1) with
  | true, true =>
    if twice < interval.gridScale power || (twice == interval.gridScale power && below % 2 == 0)
    then some below
    else some (below + 1)
  | true, false => some below
  | false, true => some (below + 1)
  | false, false => none

end RoundingInterval

/-- The shortest decimal that reads back as the positive double `mantissa * 2 ^ exponent`: the
grids of one to seventeen digits are tried in turn. -/
def shortest (mantissa : Nat) (exponent : Int) : Decimal :=
  let interval := RoundingInterval.around mantissa exponent
  let order :=
    Decimal.order (mantissa * Nat.pow 2 exponent.toNat) (Nat.pow 2 (-exponent).toNat)
  let found := (List.range 17).findSome? fun (n : Nat) =>
    (interval.nearest? (order - n)).map fun digits => Decimal.mk digits (order - n)
  (found.getD ⟨mantissa * Nat.pow 2 exponent.toNat, 0⟩).dropZeros 330

end Filtergraph
