import Filtergraph.Data.Value
import Filtergraph.Schema.IntegerText

/-!
# Checking scalars

Integers and numbers are also accepted in the form of texts and of each other, where nothing is
lost.  Operands are taken as they are: their texts stay texts and their numbers keep their kind.
-/

namespace Filtergraph
namespace Schema

/-- The integers that are taken from doubles lie strictly between plus and minus this. -/
def doubleIntegerBound : Int := (Nat.pow 2 63 : Nat)

/-- An integer, also as a truth value, a double without a fraction or a text. -/
def integer : Value -> Verdict Int
  | .int n => .accepted n
  | .bool b => .accepted (if b then 1 else 0)
  | .double x =>
    if !x.isFinite then .fault .notFinite
    else
      match x.toInt? with
      | none => .fault .fractional
      | some n =>
        if -doubleIntegerBound < n && n < doubleIntegerBound then .accepted n
        else .fault .integerTooLong
  | .text s => integerOfText s
  | _ => .fault .notInteger

/-- A double, also as an integer, a truth value or a text. -/
def number : Value -> Verdict Double
  | .double x => .accepted x
  | .int n =>
    match Double.ofInt? n with
    | some x => .accepted x
    | none => .fault .notNumber
  | .bool b => .accepted (.ofRatio false (if b then 1 else 0) 1)
  | .text s =>
    match Double.readValidated? s with
    | some x => .accepted x
    | none => .fault .unreadableNumber
  | _ => .fault .notNumber

/-- A text. -/
def text : Value -> Verdict String
  | .text s => .accepted s
  | _ => .fault .notText

/-- A number or an expression, as it is; a truth value becomes an integer. -/
def operand : Value -> Verdict Operand
  | .int n => .accepted (.int n)
  | .double x => .accepted (.double x)
  | .text s => .accepted (.text s)
  | .bool b => .accepted (.int (if b then 1 else 0))
  | _ =>
    .rejected [⟨[.name "int"], .notInteger⟩, ⟨[.name "float"], .notNumber⟩,
      ⟨[.name "str"], .notText⟩]

/-- A way of placing, by its name. -/
def position : Value -> Verdict Position
  | .text s =>
    match Position.ofName? s with
    | some position => .accepted position
    | none => .fault .unknownPosition
  | _ => .fault .unknownPosition

/-- A profile, by its name. -/
def profile : Value -> Verdict Profile
  | .text s =>
    match Profile.ofName? s with
    | some profile => .accepted profile
    | none => .fault .unknownProfile
  | _ => .fault .unknownProfile

/-- Something that may be null. -/
def optional (check : Value -> Verdict α) : Value -> Verdict (Option α)
  | .null => .accepted none
  | value => (check value).map some

end Schema
end Filtergraph
