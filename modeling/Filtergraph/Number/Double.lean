/-!
# Binary floating-point numbers

A double has a sign, a mantissa below `2 ^ 53` and an exponent of two from `-1074` to `971`, or
it is one of the infinities or the undefined number.  All arithmetic on it is exact: a ratio of
natural numbers is rounded once, and comparisons look at the numbers themselves.
-/

namespace Filtergraph

/-- A double-precision number.  The mantissa has 53 bits, unless the exponent is the least one. -/
inductive Double where
  | finite (negative : Bool) (mantissa : Nat) (exponent : Int)
  | infinite (negative : Bool)
  | undefined
  deriving DecidableEq, Repr

namespace Double

/-- The exponent of the smallest numbers. -/
def leastExponent : Int := -1074

/-- The exponent of the largest numbers. -/
def greatestExponent : Int := 971

/-- Zero of either sign. -/
def zero (negative : Bool) : Double :=
  .finite negative 0 leastExponent

/-- `num / den` to the nearest integer, where a half goes to the even neighbour. -/
def roundHalfEven (num den : Nat) : Nat :=
  let whole := num / den
  let twice := 2 * (num % den)
  if twice < den || (twice == den && whole % 2 == 0) then whole else whole + 1

/-- Whether `2 ^ power ≤ num / den`. -/
def powerAtMost (power : Int) (num den : Nat) : Bool :=
  decide (den * Nat.pow 2 power.toNat ≤ num * Nat.pow 2 (-power).toNat)

/-- The exponent of the greatest power of two up to `num / den`. -/
def binaryOrder (num den : Nat) : Int :=
  let guess : Int := (num.log2 : Int) - (den.log2 : Int)
  if powerAtMost guess num den then guess else guess - 1

/-- The double nearest to `num / den`, where a tie goes to the even mantissa. -/
def ofRatio (negative : Bool) (num den : Nat) : Double :=
  if num = 0 then zero negative
  else
    let exponent := max (binaryOrder num den - 52) leastExponent
    let mantissa :=
      roundHalfEven (num * Nat.pow 2 (-exponent).toNat) (den * Nat.pow 2 exponent.toNat)
    let carried := mantissa = Nat.pow 2 53
    let exponent := if carried then exponent + 1 else exponent
    if greatestExponent < exponent then .infinite negative
    else .finite negative (if carried then Nat.pow 2 52 else mantissa) exponent

/-- The double nearest to `digits * 10 ^ exponent`.  Powers far outside the range of doubles are
not computed. -/
def ofDecimal (negative : Bool) (digits : Nat) (exponent : Int) : Double :=
  let order := ((toString digits).length : Int) + exponent
  if digits = 0 || order < -330 then zero negative
  else if 310 < order then .infinite negative
  else ofRatio negative (digits * Nat.pow 10 exponent.toNat) (Nat.pow 10 (-exponent).toNat)

/-- The double nearest to an integer, unless that is infinite. -/
def ofInt? (n : Int) : Option Double :=
  match ofRatio (n < 0) n.natAbs 1 with
  | .infinite _ => none
  | x => some x

/-- Neither an infinity nor the undefined number. -/
def isFinite : Double -> Bool
  | .finite .. => true
  | _ => false

/-- Zero of either sign. -/
def isZero : Double -> Bool
  | .finite _ mantissa _ => mantissa == 0
  | _ => false

/-- The integer that a double is, if it is one. -/
def toInt? : Double -> Option Int
  | .finite negative mantissa exponent =>
    let num := mantissa * Nat.pow 2 exponent.toNat
    let den := Nat.pow 2 (-exponent).toNat
    if num % den = 0 then
      some (if negative then -((num / den : Nat) : Int) else (num / den : Nat))
    else none
  | _ => none

end Double
end Filtergraph
