import Filtergraph.Media.Description
import Filtergraph.World.Context

/-!
# Probing files

A file is probed by one call of the probing tool.  When the tool does not answer in time, fails
or prints what cannot be read, a warning is left and nothing but the path is known.
-/

namespace Filtergraph

/-- The call that probes a file. -/
def probeCall (prober path : Word) : Call :=
  ⟨[prober, .text "-v", .text "quiet", .text "-print_format", .text "json",
    .text "-show_entries", .text "stream=codec_type,width,height,duration:format=duration", path],
    .int 5, false⟩

namespace Context

/-- Leaves a warning, and knows nothing but the path. -/
def probeInVain (logger message : String) (path : Word) : Action Asset := do
  Action.tell logger .warning message
  Action.ofExcept (Description.assetOf path [])

/-- What the output of the probing tool tells about a file. -/
def readProbe (depthLimit : Nat) (logger : String) (path : Word) : Option String -> Action Asset
  | none => throw (.wrongType (.document Value.null.typeName))
  | some output =>
    match Json.read depthLimit output with
    | .ok description => Action.ofExcept (Description.toAsset path description)
    | .error .unreadable => probeInVain logger ("Unreadable ffprobe output for " ++ path.plain) path
    | .error (.tooLong numeral) => throw (.wrongValue (.numeral numeral))
    | .error (.tooDeep inList) => throw (.tooDeep inList)

/-- Probes a file. -/
def probe (id : ContextId) (path : Word) : Action Asset := do
  let world ← get
  let context := world.context id
  match ← Action.call (probeCall context.prober path) with
  | .finished status output errors =>
    if isSuccess status then readProbe world.depthLimit context.logger path output
    else
      probeInVain context.logger
        ("ffprobe failed for " ++ path.plain ++ ": " ++ errors.getD nullText) path
  | .expired => probeInVain context.logger ("Probing timed out for " ++ path.plain) path
  | .missing reason => throw (.tool (.notFound .prober reason))
  | .refused refusal message => throw (.refused refusal message)
  | .malformed message => throw (.wrongValue (.reported message))

end Context
end Filtergraph
