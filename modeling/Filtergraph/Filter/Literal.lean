import Filtergraph.Filter.Basic

/-!
# Filters with fixed arguments

A literal filter always contributes the same arguments, and the kind of the format if it echoes
that.  A variant tells single and several inputs apart, and an empty filter contributes nothing.
-/

namespace Filtergraph

/-- The settings that all filters share. -/
structure FilterSettings where
  /-- The ordering key. -/
  priority : Value := .int 0
  /-- The oldest release of the tool that the filter works with. -/
  minimum : Value := Filter.oldestRelease
  deriving Repr

/-- What a filter of these settings holds. -/
def FilterSettings.holdings (settings : FilterSettings) : Holdings where
  priority := some settings.priority
  minimum := some settings.minimum

/-- A filter with fixed arguments. -/
structure Literal where
  /-- The name. -/
  name : Word
  /-- The arguments, or else a tag with the name. -/
  fixed : Option (List Argument) := none
  /-- Whether the kind of the format follows. -/
  echoes : Bool := false
  /-- The message it fails with. -/
  failure : Option String := none
  deriving Repr

namespace Literal

/-- The kind of a format, if there is a format. -/
def kind? : Option Format -> Except Failure (Option Argument)
  | some format => format.kind.map some
  | none => .ok none

/-- The kind of a format, or a word for none. -/
def kindOrNone (format : Option Format) : Except Failure Argument :=
  (kind? format).map (·.getD (.text "none"))

/-- A kind behind a mark. -/
def echo : Option Argument -> List Argument
  | some kind => [.text "fmt", kind]
  | none => []

/-- What a literal filter contributes for a format.  A format needs a kind even where that is not
echoed. -/
def fragment (literal : Literal) (format : Option Format) : Contribution :=
  match literal.failure with
  | some message => .error (.wrongValue (.reported message))
  | none => do
    let kind ← kind? format
    return some (literal.fixed.getD [.text "-tag", literal.name.value] ++
      if literal.echoes then echo kind else [])

/-- The filter of fixed arguments. -/
def toFilter (literal : Literal) (settings : FilterSettings) : Filter where
  typeName := "TagFilter"
  name := literal.name
  holdings := settings.holdings
  ownFragment := fun _ => literal.fragment

/-- The source of a single input and the kind of a format. -/
def tellSingle (input : Input) (format : Option Format) : Contribution := do
  let source ← input.source
  return some [.text "apply", .text source, ← kindOrNone format]

/-- The number of several inputs and the kind of their format. -/
def tellMultiple (inputs : Inputs) : Contribution := do
  return some [.text "complex", .text (toString inputs.paths.length), ← kindOrNone inputs.format]

/-- The filter of fixed arguments that tells what it is applied to. -/
def toTellingFilter (literal : Literal) (settings : FilterSettings) : Filter :=
  { literal.toFilter settings with
    typeName := "CustomFilter"
    ownSingle := some tellSingle
    ownMultiple := some tellMultiple }

end Literal

/-- The filter without a name and without arguments. -/
def emptyFilter (settings : FilterSettings) : Filter where
  typeName := "BareFilter"
  name := .null
  holdings := settings.holdings
  ownFragment := fun _ _ => .ok none

end Filtergraph
