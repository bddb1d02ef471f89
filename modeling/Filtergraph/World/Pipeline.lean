import Filtergraph.World.Context

/-!
# Pipelines

A pipeline keeps filters in the order in which they were added.  It is bound to a context when it
is made, or to the default context when a command first needs one, and stays bound.  A command
names the tool, then the inputs, then what the filters contribute, then the codec arguments, and
the output last.
-/

namespace Filtergraph

/-- What filters are applied to. -/
inductive Source where
  | single (video : Video)
  | several (inputs : Inputs)
  deriving Repr

namespace Source

/-- The arguments for the inputs. -/
def inputArguments : Source -> List Argument
  | .single video => [.text "-i", .text video.source]
  | .several inputs => inputs.arguments

/-- The format of the output: the one asked for, or else the one that goes with the inputs. -/
def outputFormat (source : Source) (format : Option Format) : Option Format :=
  match source with
  | .single _ => format
  | .several inputs => format <|> inputs.format

/-- What a filter contributes. -/
def contribution (source : Source) (format : Option Format) (filter : Filter) : Contribution :=
  match source with
  | .single video => filter.single (.video video) format
  | .several inputs => filter.multiple inputs

end Source

/-- The codec arguments of a format, if there is one. -/
def codecArguments : Option Format -> Except Failure (List Argument)
  | none => .ok []
  | some format => format.arguments

/-- The command that applies filters, in the given order, to a source. -/
def assemble (encoder : Argument) (source : Source) (output : Argument) (format : Option Format)
    (inOrder : List Filter) : Except Failure (List Argument) := do
  let contributed ← Filter.gather (source.contribution format) inOrder
  let codec ← codecArguments (source.outputFormat format)
  return [encoder, .text "-y"] ++ source.inputArguments ++ contributed ++ codec ++ [output]

/-- Where the notes on a pipeline go. -/
def World.loggerOfPipeline (world : World) (id : PipelineId) : String :=
  match (world.pipeline id).context with
  | some context => (world.context context).logger
  | none => pipelineLogger

namespace Pipeline

/-- Makes a pipeline, with or without a context. -/
def create (context : Option ContextId) : Action PipelineId := do
  let world ← get
  let pipeline : Pipeline := { context }
  set { world with pipelines := world.pipelines ++ [pipeline] }
  return world.pipelines.length

/-- Adds a filter to a pipeline. -/
def add (id : PipelineId) (filter : FilterId) : Action Unit :=
  modify fun world =>
    let pipeline := world.pipeline id
    world.setPipeline id { pipeline with filters := pipeline.filters ++ [filter] }

/-- The context of a pipeline, which is bound to the default context if it has none. -/
def obtainContext (id : PipelineId) : Action ContextId := do
  match ((← get).pipeline id).context with
  | some context => return context
  | none => do
    let context ← Context.obtainDefault
    modify fun world =>
      world.setPipeline id { world.pipeline id with context := some context }
    return context

/-- The fragments of the filters of a pipeline. -/
def compile (id : PipelineId) (format : Option Format) (tool : Value) (strict : Bool) :
    Action (List Argument) := do
  let world ← get
  Action.ofReport (world.loggerOfPipeline id)
    (Filter.compile world.filter (world.pipeline id).filters format tool strict)

/-- The command that applies a pipeline to a source. -/
def build (id : PipelineId) (source : Source) (output : Argument) (format : Option Format)
    (tool : Value) (strict : Bool) : Action (List Argument) := do
  let world ← get
  let inOrder ← Action.ofReport (world.loggerOfPipeline id)
    (Filter.ordered world.filter (world.pipeline id).filters tool strict)
  let context ← obtainContext id
  Action.ofExcept (assemble ((← get).context context).encoder source output format
    (inOrder.map world.filter))

/-- The output of a dry run unless another one is given. -/
def dryRunOutput : Argument := .text "OUT.mp4"

/-- The command as one line, without running it. -/
def dryRun (id : PipelineId) (source : Source) (output : Argument) (format : Option Format) :
    Action String := do
  let arguments ← build id source output format .null false
  Action.ofExcept (commandLine arguments)

/-- Builds a command, checked against the release of the tool, and runs it. -/
def run (id : PipelineId) (source : Source) (output : Argument) (format : Option Format)
    (strict : Bool) : Action RunResult := do
  let context ← obtainContext id
  let release ← Context.askRelease context
  let arguments ← build id source output format (.ofOption .text release) strict
  let result ← ((← get).context context).runner.run arguments
  if !result.succeeded then throw (.tool (.commandFailed result.errors))
  Action.tell ((← get).context context).logger .info "FFmpeg completed successfully"
  return result

end Pipeline
end Filtergraph
