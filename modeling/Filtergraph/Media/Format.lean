import Filtergraph.Schema.Maker

/-!
# Target formats

The format of an output is a checked encoding, or settings that nobody has checked.  Unchecked
settings go into the arguments as they are, unless their kind is unknown or was never set, or their
rate factor cannot be written.
-/

namespace Filtergraph

/-- An argument of a command.  Only texts can be part of a command that is run; other values are
passed on until the arguments are joined. -/
abbrev Argument := Value

/-- What the output is to be encoded as. -/
inductive Format where
  | checked (encoding : Encoding)
  | unchecked (kind : Option Value) (quality preset : Value)
  deriving Repr

namespace Format

/-- The kind of output, which unchecked settings may lack. -/
def kind : Format -> Except Failure Value
  | .checked encoding => .ok (.text encoding.profile.name)
  | .unchecked (some kind) _ _ => .ok kind
  | .unchecked none _ _ => .error (.wrongAttribute (.absent Schema.encoding.title "kind"))

/-- The rate factor. -/
def quality : Format -> Value
  | .checked encoding => .ofOption .int encoding.quality
  | .unchecked _ quality _ => quality

/-- The preset. -/
def preset : Format -> Value
  | .checked encoding => .ofOption .text encoding.preset
  | .unchecked _ _ preset => preset

/-- The profile of an unchecked kind. -/
def profile? : Value -> Option Profile
  | .text s => Profile.ofName? s
  | _ => none

/-- A value, or another one in its place if it does not count as true. -/
def orElse (value other : Value) : Value :=
  if value.isTrue then value else other

/-- The codec arguments. -/
def arguments : Format -> Except Failure (List Argument)
  | .checked encoding => do return (← Failure.written encoding.arguments?).map .text
  | format@(.unchecked _ quality preset) => do
    let kind ← format.kind
    match profile? kind with
    | some profile => do
      let quality ← Failure.written (orElse quality (.int profile.quality)).plain?
      return profile.arguments .text (.text quality) (orElse preset (.text defaultPreset))
    | none => do throw (.wrongValue (.encoding (← Failure.written kind.plain?)))

end Format

/-- How a format is asked for. -/
inductive FormatRequest where
  /-- By the maker of a profile and its named arguments. -/
  | ofProfile (profile : Profile) (arguments : Draft)
  /-- By a document that has to fit the schema. -/
  | checked (document : Draft)
  /-- By members that are not checked. -/
  | unchecked (members : Draft)
  deriving Repr

/-- A document as an encoding. -/
def encodingOf (document : Value) : Except Failure Encoding :=
  ((Schema.checkEncoding document).toExcept .encoding).mapError .rejected

namespace FormatRequest

/-- The names of the arguments that the maker of a profile takes. -/
def makerNames : Profile -> List String
  | .h264 => ["crf", "preset"]
  | _ => ["crf"]

/-- The members that the maker of a profile fills in. -/
def makerMembers (profile : Profile) (arguments : Schema.Members) : Schema.Members :=
  [("kind", .text profile.name),
    ("crf", (Value.member? "crf" arguments).getD (.int profile.quality))] ++
  if makerNames profile = ["crf", "preset"] then
    [("preset", (Value.member? "preset" arguments).getD (.text defaultPreset))]
  else []

/-- The format that is asked for. -/
def resolve : FormatRequest -> Except Failure Format
  | .ofProfile profile arguments => do
    let arguments ← arguments.members
    checkNames (Schema.encoding.title ++ "." ++ profile.name) (makerNames profile) arguments
    return .checked (← encodingOf (.table (makerMembers profile arguments)))
  | .checked document => return .checked (← encodingOf (← document.resolve))
  | .unchecked members => do
    let members ← members.members
    return .unchecked (Value.member? "kind" members) ((Value.member? "crf" members).getD .null)
      ((Value.member? "preset" members).getD .null)

/-- The format that is asked for, if one is. -/
def resolveOption : Option FormatRequest -> Except Failure (Option Format)
  | none => .ok none
  | some request => do return some (← request.resolve)

end FormatRequest

/-- Several inputs and the format that goes with them. -/
structure Inputs where
  /-- The paths or addresses of the inputs. -/
  paths : List String
  /-- The format that goes with them. -/
  format : Option Format := none
  deriving Repr

namespace Inputs

/-- The inputs of a checked record. -/
def ofMedia (media : Media) : Inputs :=
  ⟨media.inputs, media.encoding.map .checked⟩

/-- An option for every input, in order. -/
def arguments (inputs : Inputs) : List Argument :=
  inputs.paths.flatMap fun path => [.text "-i", .text path]

end Inputs
end Filtergraph
