import Filtergraph.Filter.Holdings
import Filtergraph.Media.Format
import Filtergraph.Schema.Assign

/-!
# Filters

A filter contributes arguments to a command: to one with a single input, to one with several
inputs, and to a plain list of arguments.  Filters are emitted by ascending priority, and each
names the oldest release of the tool that it works with.
-/

namespace Filtergraph

/-- What a filter contributes: arguments, or nothing that could be taken for arguments. -/
abbrev Contribution := Except Failure (Option (List Argument))

/-- A single input as a filter gets it: a video, or a word that has not been opened. -/
inductive Input where
  | video (video : Video)
  | unopened (word : Word)
  deriving Repr

/-- The path or address of a single input. -/
def Input.source : Input -> Except Failure String
  | .video opened => .ok opened.source
  | .unopened word => .error (.wrongAttribute (.absent word.value.typeName "src"))

/-- A named unit that contributes arguments by what it holds. -/
structure Filter where
  /-- The kind of the filter, as descriptions give it. -/
  typeName : String
  /-- The name. -/
  name : Word
  /-- The values it holds. -/
  holdings : Holdings := {}
  /-- The arguments for a format. -/
  ownFragment : Holdings -> Option Format -> Contribution
  /-- The arguments in a command with a single input, if they are not the fragment. -/
  ownSingle : Option (Input -> Option Format -> Contribution) := none
  /-- The arguments in a command with several inputs, if they are not the fragment. -/
  ownMultiple : Option (Inputs -> Contribution) := none
  /-- The properties that cannot be given new values. -/
  fixed : List String := ["name", "priority"]

/-- A value that an object of a type has to hold under a name. -/
def heldBy (typeName name : String) : Option Value -> Except Failure Value
  | some value => .ok value
  | none => .error (.wrongAttribute (.absent typeName name))

namespace Filter

/-- A filter that does nothing of its own. -/
instance : Inhabited Filter where
  default := { typeName := "", name := .null, ownFragment := fun _ _ => .ok none }

/-- The ordering key. -/
def priority (filter : Filter) : Except Failure Value :=
  heldBy filter.typeName Holdings.priorityName filter.holdings.priority

/-- The oldest release of the tool, which filters work with that name no other. -/
def oldestRelease : Value := .text "0.8"

/-- The oldest release of the tool that the filter works with. -/
def minimum (filter : Filter) : Value :=
  filter.holdings.minimum.getD oldestRelease

/-- The failure of a value in the place of something that a filter does. -/
def inactive (value : Value) : Contribution :=
  .error (.wrongType (.behaviour value.typeName))

/-- The arguments for a format. -/
def fragment (filter : Filter) (format : Option Format) : Contribution :=
  match filter.holdings.fragment with
  | some value => inactive value
  | none => filter.ownFragment filter.holdings format

/-- The arguments in a command with a single input. -/
def single (filter : Filter) (input : Input) (format : Option Format) : Contribution :=
  match filter.holdings.single, filter.ownSingle with
  | some value, _ => inactive value
  | none, some own => own input format
  | none, none => filter.fragment format

/-- The arguments in a command with several inputs. -/
def multiple (filter : Filter) (inputs : Inputs) : Contribution :=
  match filter.holdings.multiple, filter.ownMultiple with
  | some value, _ => inactive value
  | none, some own => own inputs
  | none, none => filter.fragment inputs.format

/-- The short description of a filter. -/
def summary (filter : Filter) : Except Failure String := do
  let priority ← Failure.written (← filter.priority).plain?
  return filter.typeName ++ "(name=" ++ filter.name.quoted ++ ", priority=" ++ priority ++ ")"

/-- The filter contributes its fragment wherever it stands. -/
def Uniform (filter : Filter) : Prop :=
  (∀ input format, filter.single input format = filter.fragment format) ∧
    ∀ inputs, filter.multiple inputs = filter.fragment inputs.format

/-- The filter has nothing to do in commands but what it does for a plain list of arguments. -/
def Plain (filter : Filter) : Prop :=
  filter.holdings.single = none ∧ filter.ownSingle = none ∧
    filter.holdings.multiple = none ∧ filter.ownMultiple = none

/-- A plain filter contributes its fragment wherever it stands. -/
theorem Plain.uniform {filter : Filter} (plain : filter.Plain) : filter.Uniform := by
  obtain ⟨single, ownSingle, multiple, ownMultiple⟩ := plain
  constructor
  · intro input format
    rw [Filter.single, single, ownSingle]
  · intro inputs
    rw [Filter.multiple, multiple, ownMultiple]

/-- Whether two contributions are the same. -/
def sameContribution : Contribution -> Contribution -> Bool
  | .ok none, .ok none => true
  | .ok (some first), .ok (some second) => Value.sameItems first second
  | _, _ => false

/-- Whether a filter contributes the same to a plain list, to a video and to several inputs. -/
def agrees (filter : Filter) (video : Video) (inputs : Inputs) : Bool :=
  sameContribution (filter.fragment none) (filter.single (.video video) none) &&
    sameContribution (filter.fragment none) (filter.multiple inputs)

/-- The type from which all filters have what every object has. -/
def baseTypeName : String := "Filter"

/-- Gives a property a new value, or all that the filter holds at once.  Values are not checked,
and one in the place of what a filter does keeps it from doing that. -/
def assign (filter : Filter) (name : String) (value : Value) : Except Failure Filter := do
  if filter.fixed.contains name then
    throw (.wrongAttribute (.readOnly name filter.typeName))
  checkReserved baseTypeName name value
  match allAttributes? name value with
  | some attributes => return { filter with holdings := .ofMembers attributes }
  | none => return { filter with holdings := filter.holdings.assign name value }

end Filter
end Filtergraph
