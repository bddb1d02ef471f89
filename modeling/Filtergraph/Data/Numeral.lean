import Filtergraph.Text.Digit

/-!
# Numerals

Integers are read and written with up to 4300 digits.  A longer numeral is refused, whatever digits
it holds, and so is an integer that would need one.  A sign does not count.
-/

namespace Filtergraph

/-- The greatest number of digits of a numeral. -/
def digitLimit : Nat := 4300

/-- A numeral with more digits than the limit allows. -/
structure TooLong where
  /-- The number of digits. -/
  digits : Nat
  deriving DecidableEq, Repr

/-- The number that a run of digits of any script writes. -/
def readNumeral (digits : List Char) : Except TooLong Nat :=
  if digitLimit < digits.length then .error ⟨digits.length⟩
  else .ok (Text.numeral (fun c => (Text.digitValue? c).getD 0) digits)

/-- The number of decimal digits of an integer. -/
def digitCount (n : Int) : Nat :=
  (Nat.toDigits 10 n.natAbs).length

/-- An integer that can be written. -/
structure Numeral where
  /-- The integer. -/
  value : Int
  /-- Its digits are not too many. -/
  short : digitCount value ≤ digitLimit
  deriving DecidableEq, Repr

namespace Numeral

/-- The text of an integer that can be written. -/
def text (numeral : Numeral) : String :=
  toString numeral.value

/-- An integer, if it can be written. -/
def ofInt? (n : Int) : Option Numeral :=
  if short : digitCount n ≤ digitLimit then some ⟨n, short⟩ else none

theorem ofInt?_of_short {n : Int} (short : digitCount n ≤ digitLimit) :
    ofInt? n = some ⟨n, short⟩ :=
  dif_pos short

theorem ofInt?_eq_none_iff {n : Int} : ofInt? n = none ↔ digitLimit < digitCount n := by
  simp [ofInt?]

/-- What can be written is the integer itself. -/
theorem value_of_ofInt? {n : Int} {numeral : Numeral} (written : ofInt? n = some numeral) :
    numeral.value = n := by
  rw [ofInt?] at written
  split at written
  · exact (congrArg value (Option.some.inj written)).symm
  · cases written

end Numeral

end Filtergraph
