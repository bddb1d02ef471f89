import Filtergraph.Data.Numeral
import Filtergraph.Number.Layout
import Filtergraph.Text.Blank

/-!
# Operands

A coordinate or a time is a number or an expression in the variables of the filter language.
Operands are written verbatim, as far as they can be written.  One that is absent or blank counts as
not given; zero is given.
-/

namespace Filtergraph

/-- A number or an expression. -/
inductive Operand where
  | int (n : Int)
  | double (x : Double)
  | text (s : String)
  deriving DecidableEq, Repr

namespace Operand

/-- The operand as it stands in an argument, if it can be written. -/
def render? : Operand -> Option String
  | .int n => (Numeral.ofInt? n).map Numeral.text
  | .double x => some x.text
  | .text s => some s

/-- Numbers are set, and so is a text with a visible character. -/
def isSet : Operand -> Bool
  | .text s => Text.hasVisible s
  | _ => true

end Operand

/-- The operand of a setting that is set. -/
def given? (setting : Option Operand) : Option Operand :=
  setting.filter Operand.isSet

@[simp] theorem given?_none : given? none = none := rfl

/-- Whatever is given is set. -/
theorem isSet_of_given? {setting : Option Operand} {operand : Operand}
    (given : given? setting = some operand) : operand.isSet = true :=
  (Option.filter_eq_some_iff.mp given).2

end Filtergraph
