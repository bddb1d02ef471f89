import Filtergraph.Proofs.Session.Uses

/-!
# Uses of a pipeline in a context

A pipeline that is bound to a context is used in this context alone: the command names its encoding
tool, the release is the one that it knows or learns, its runner runs the command, and notes go to
its logger.
-/

namespace Filtergraph
namespace Pipeline

open World

/-- The fragments of the filters of a pipeline, with notes to the logger of a context. -/
def compileIn (context : ContextId) (id : PipelineId) (format : Option Format) (tool : Value)
    (strict : Bool) : Action (List Argument) := do
  let world ← get
  Action.ofReport (world.context context).logger
    (Filter.compile world.filter (world.pipeline id).filters format tool strict)

/-- The command that applies the filters of a pipeline to a source in a context. -/
def buildIn (context : ContextId) (id : PipelineId) (source : Source) (output : Argument)
    (format : Option Format) (tool : Value) (strict : Bool) : Action (List Argument) := do
  let world ← get
  let inOrder ← Action.ofReport (world.context context).logger
    (Filter.ordered world.filter (world.pipeline id).filters tool strict)
  Action.ofExcept (assemble (world.context context).encoder source output format
    (inOrder.map world.filter))

/-- The command in a context as one line. -/
def dryRunIn (context : ContextId) (id : PipelineId) (source : Source) (output : Argument)
    (format : Option Format) : Action String := do
  let arguments ← buildIn context id source output format .null false
  Action.ofExcept (commandLine arguments)

/-- Builds a command in a context, checked against the release that the context knows or learns, and
lets the runner of the context run it. -/
def runIn (context : ContextId) (id : PipelineId) (source : Source) (output : Argument)
    (format : Option Format) (strict : Bool) : Action RunResult := do
  let release ← Context.askRelease context
  let arguments ← buildIn context id source output format (.ofOption .text release) strict
  execute context arguments

variable {world : World}
variable {id : PipelineId}
variable {context : ContextId}
variable (source : Source)
variable (output : Argument)
variable (format : Option Format)
variable (tool : Value)
variable (strict : Bool)

theorem loggerOfPipeline_of_bound (bound : (world.pipeline id).context = some context) :
    world.loggerOfPipeline id = (world.context context).logger := by
  rw [World.loggerOfPipeline, bound]

/-- A bound pipeline is compiled in its context. -/
theorem compile_of_bound (bound : (world.pipeline id).context = some context) :
    (compile id format tool strict).perform world =
      (compileIn context id format tool strict).perform world := by
  rw [compile, compileIn, Action.perform_bind, Action.perform_bind, Action.perform_get]
  dsimp only
  rw [loggerOfPipeline_of_bound bound]

/-- In a context, a command is checked and then assembled. -/
theorem perform_buildIn (context : ContextId) (id : PipelineId) (world : World) :
    (buildIn context id source output format tool strict).perform world =
      (((orderReport id tool strict world).outcome >>= fun inOrder =>
          assemble (world.context context).encoder source output format
            (inOrder.map world.filter)),
        world.afterNotes (world.context context).logger
          (orderReport id tool strict world).notes) := by
  rw [buildIn, Action.perform_bind, Action.perform_get]
  dsimp only
  rw [Action.perform_bind, Action.perform_ofReport, orderReport]
  cases (Filter.ordered world.filter (world.pipeline id).filters tool strict).outcome <;> rfl

/-- A bound pipeline builds its commands in its context, so that no default context is read. -/
theorem build_of_bound (bound : (world.pipeline id).context = some context) :
    (build id source output format tool strict).perform world =
      (buildIn context id source output format tool strict).perform world := by
  have settled : Settled (notedWorld id tool strict world) id context := .bound bound
  have obtained := settled.obtain
  rw [notedWorld, orderReport] at obtained
  rw [perform_build, perform_buildIn, orderReport]
  dsimp only
  rw [obtained, loggerOfPipeline_of_bound bound]
  cases (Filter.ordered world.filter (world.pipeline id).filters tool strict).outcome <;> rfl

theorem dryRun_of_bound (bound : (world.pipeline id).context = some context) :
    (dryRun id source output format).perform world =
      (dryRunIn context id source output format).perform world := by
  rw [dryRun, dryRunIn, Action.perform_bind, Action.perform_bind,
    build_of_bound source output format .null false bound]

theorem run_of_bound (bound : (world.pipeline id).context = some context) :
    (run id source output format strict).perform world =
      (runIn context id source output format strict).perform world := by
  have same := Context.sameBindings_askRelease context world
  rw [run_eq, runIn, Action.perform_bind, (Settled.bound bound).obtain]
  dsimp only
  rw [Action.perform_bind, Action.perform_bind]
  rcases asks : (Context.askRelease context).perform world with ⟨failure | release, asked⟩
  · rfl
  · rw [asks] at same
    have boundToo : (asked.pipeline id).context = some context := by
      rw [World.pipeline, same.pipelines]
      exact bound
    dsimp only
    rw [Action.perform_bind, Action.perform_bind,
      build_of_bound source output format _ strict boundToo]

/-- A command that is built in a context names its encoding tool. -/
theorem encoder_of_buildIn
    {arguments : List Argument}
    (builds : ((buildIn context id source output format tool strict).perform world).1 =
      .ok arguments) :
    arguments.head? = some (world.context context).encoder := by
  rw [perform_buildIn] at builds
  obtain ⟨inOrder, -, assembled⟩ := bind_eq_ok_iff.mp builds
  obtain ⟨parts, codec, -, -, rfl⟩ := assemble_eq_ok_iff.mp assembled
  rfl

end Pipeline

namespace Use

open SessionAction

/-- Uses a pipeline in a context. -/
def performIn (context : ContextId) (id : PipelineId) : Use -> SessionAction Reply
  | .context => describe context
  | .compile format tool strict => do
    return .contribution (some (← act (Pipeline.compileIn context id format tool strict)))
  | .build source output format tool strict => do
    return .contribution (some (← act
      (Pipeline.buildIn context id source output format tool strict)))
  | .dryRun source output format => do
    return .text (← act (Pipeline.dryRunIn context id source output format))
  | .run source output format strict => do
    return .record (.result (← act (Pipeline.runIn context id source output format strict)))

/-- A pipeline that is bound to a context is used in this context. -/
theorem perform_of_bound
    {session : Session}
    {id : PipelineId}
    {context : ContextId}
    (bound : (session.world.pipeline id).context = some context)
    (use : Use) :
    (use.perform id).perform session = (use.performIn context id).perform session := by
  cases use with
  | context =>
      rw [perform, performIn, perform_bind, (reads_obtainContext bound).perform_eq]
  | compile format tool strict =>
      rw [perform, performIn, perform_bind, perform_bind, perform_act, perform_act,
        Pipeline.compile_of_bound format tool strict bound]
  | build source output format tool strict =>
      rw [perform, performIn, perform_bind, perform_bind, perform_act, perform_act,
        Pipeline.build_of_bound source output format tool strict bound]
  | dryRun source output format =>
      rw [perform, performIn, perform_bind, perform_bind, perform_act, perform_act,
        Pipeline.dryRun_of_bound source output format bound]
  | run source output format strict =>
      rw [perform, performIn, perform_bind, perform_bind, perform_act, perform_act,
        Pipeline.run_of_bound source output format strict bound]

end Use
end Filtergraph
