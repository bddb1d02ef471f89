import Filtergraph.FileTree
import Filtergraph.Filter.Basic
import Filtergraph.Filter.Report

/-!
# The world of actions

Actions call external tools, write notes and lines, and keep contexts, filters and pipelines.
The outcomes of calls come from a script; everything an action does is recorded in a trace.  An
action that fails keeps what it has done up to then.
-/

namespace Filtergraph

/-- How a call of a tool ends. -/
inductive Outcome where
  /-- The tool ran to its end; null stands for a status that is not known. -/
  | finished (status : Word) (output errors : Option String)
  /-- The tool was stopped at its time limit. -/
  | expired
  /-- The tool is not there. -/
  | missing (reason : String)
  /-- The operating system does not start the tool. -/
  | refused (refusal : Refusal) (message : String)
  /-- The arguments are of no use to the operating system. -/
  | malformed (message : String)
  deriving Repr

/-- The tool ran to its end and reports success. -/
def Outcome.succeeded (output errors : Option String) : Outcome :=
  .finished (.int 0) output errors

/-- The outcome of a call once the script is used up. -/
def Outcome.silent : Outcome :=
  .succeeded (some "") (some "")

/-- A call of a tool.  Its output is always captured as text. -/
structure Call where
  /-- The tool and its arguments. -/
  arguments : List Argument
  /-- The time limit in seconds; null is none. -/
  limit : Value
  /-- Whether the tool is cut off from standard input. -/
  detached : Bool
  deriving Repr

/-- Something an action does that can be seen from outside. -/
inductive Event where
  | call (call : Call)
  | note (logger : String) (note : Note)
  | line (text : String)
  deriving Repr

/-- Runs finished commands. -/
structure Runner where
  /-- Where its notes go. -/
  logger : String
  /-- The time limit in seconds; null is none. -/
  limit : Word := .null
  deriving Repr, Inhabited

/-- The tools in use, where notes go, and what is known about the release. -/
structure Context where
  /-- The encoding tool. -/
  encoder : Word
  /-- The probing tool. -/
  prober : Word
  /-- Where notes go. -/
  logger : String
  /-- What runs commands. -/
  runner : Runner
  /-- The release of the encoding tool, once it is known. -/
  release : Option String := none
  deriving Repr, Inhabited

/-- Contexts are numbered in the order in which they come into existence. -/
abbrev ContextId := Nat

/-- Filters are numbered in the order in which they come into existence. -/
abbrev FilterId := Nat

/-- Pipelines are numbered in the order in which they come into existence. -/
abbrev PipelineId := Nat

/-- Filters in the order in which they were added, and the context they run in once there is
one. -/
structure Pipeline where
  /-- The context. -/
  context : Option ContextId := none
  /-- The filters. -/
  filters : List FilterId := []
  deriving DecidableEq, Repr, Inhabited

/-- All that actions read and change. -/
structure World where
  /-- The files below the working directory. -/
  files : FileTree := {}
  /-- The outcomes of the calls to come. -/
  script : List Outcome := []
  /-- The greatest number of lists and tables inside each other that a report is read with. -/
  depthLimit : Nat := 1000
  /-- The contexts. -/
  contexts : List Context := []
  /-- The context in use where none is given. -/
  defaultContext : Option ContextId := none
  /-- The filters. -/
  filters : List Filter := []
  /-- The pipelines. -/
  pipelines : List Pipeline := []
  /-- What has been done, the oldest first. -/
  trace : List Event := []

namespace World

/-- The context of a number. -/
def context (world : World) (id : ContextId) : Context :=
  world.contexts[id]?.getD default

/-- The filter of a number. -/
def filter (world : World) (id : FilterId) : Filter :=
  world.filters[id]?.getD default

/-- The pipeline of a number. -/
def pipeline (world : World) (id : PipelineId) : Pipeline :=
  world.pipelines[id]?.getD default

/-- The filters of a pipeline. -/
def pipelineFilters (world : World) (id : PipelineId) : List Filter :=
  (world.pipeline id).filters.map world.filter

/-- Puts an event at the end of the trace. -/
def record (world : World) (event : Event) : World :=
  { world with trace := world.trace ++ [event] }

/-- Replaces a context. -/
def setContext (world : World) (id : ContextId) (context : Context) : World :=
  { world with contexts := world.contexts.set id context }

/-- Replaces a pipeline. -/
def setPipeline (world : World) (id : PipelineId) (pipeline : Pipeline) : World :=
  { world with pipelines := world.pipelines.set id pipeline }

end World

/-- An action changes the world, and gives a result or fails. -/
abbrev Action := ExceptT Failure (StateM World)

namespace Action

/-- Performs an action. -/
def perform (action : Action α) (world : World) : Except Failure α × World :=
  action.run.run world

/-- A result or a failure without any effect. -/
def ofExcept (outcome : Except Failure α) : Action α :=
  ExceptT.mk (pure outcome)

/-- Writes a note. -/
def tell (logger : String) (level : Level) (message : String) : Action Unit :=
  modify fun world => world.record (.note logger ⟨level, message⟩)

/-- Writes a line to standard output. -/
def say (text : String) : Action Unit :=
  modify fun world => world.record (.line text)

/-- Writes the notes of a report and goes on with its outcome. -/
def ofReport (logger : String) (report : Report α) : Action α := do
  modify fun world =>
    { world with trace := world.trace ++ report.notes.map (.note logger) }
  ofExcept report.outcome

/-- Calls a tool: the next outcome of the script is used up. -/
def call (call : Call) : Action Outcome := do
  let world ← get
  set { world.record (.call call) with script := world.script.tail }
  return world.script.head?.getD .silent

@[simp] theorem perform_pure (a : α) (world : World) :
    perform (pure a) world = (.ok a, world) := rfl

@[simp] theorem perform_throw (failure : Failure) (world : World) :
    perform (throw failure : Action α) world = (.error failure, world) := rfl

/-- The second action goes on where the first one left the world, unless the first one failed. -/
theorem perform_bind (action : Action α) (next : α -> Action β) (world : World) :
    perform (action >>= next) world =
      match perform action world with
      | (.ok a, world) => perform (next a) world
      | (.error failure, world) => (.error failure, world) := by
  have split : perform (action >>= next) world =
      (match action world with
        | (outcome, world) => ExceptT.bindCont next outcome world) := rfl
  have same : perform action world = action world := rfl
  rw [split, same]
  cases action world with
  | mk outcome world => cases outcome <;> rfl

@[simp] theorem perform_get (world : World) :
    perform (get : Action World) world = (.ok world, world) := rfl

@[simp] theorem perform_modify (change : World -> World) (world : World) :
    perform (modify change : Action PUnit) world = (.ok ⟨⟩, change world) := rfl

@[simp] theorem perform_ofExcept (outcome : Except Failure α) (world : World) :
    perform (ofExcept outcome) world = (outcome, world) := rfl

@[simp] theorem perform_tell (logger : String) (level : Level) (message : String) (world : World) :
    perform (tell logger level message) world =
      (.ok (), world.record (.note logger ⟨level, message⟩)) := rfl

@[simp] theorem perform_call (toolCall : Call) (world : World) :
    perform (call toolCall) world =
      (.ok (world.script.head?.getD .silent),
        { world.record (.call toolCall) with script := world.script.tail }) := rfl

@[simp] theorem perform_ofReport (logger : String) (report : Report α) (world : World) :
    perform (ofReport logger report) world =
      (report.outcome,
        { world with trace := world.trace ++ report.notes.map (.note logger) }) := rfl

end Action

/-- Where notes go.  A name that is absent or empty leaves them where they go by themselves. -/
def loggerOr (absent : String) : Option String -> String
  | some name => if name = "" then absent else name
  | none => absent

/-- Where notes on contexts and commands go unless something else is asked for. -/
def defaultLogger : String := "ffmpegfilters.media.context"

/-- Where notes on pipelines without a context go. -/
def pipelineLogger : String := "ffmpegfilters.filters.pipeline"

end Filtergraph
