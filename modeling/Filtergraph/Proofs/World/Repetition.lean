import Filtergraph.Proofs.Filter.Releases
import Filtergraph.Proofs.Session.Runs
import Filtergraph.Proofs.World.Pipelines

/-!
# Building a command again

A command that is built again is the same command.  The notes of the check are the same as well, but
they go to the logger of the context only once the pipeline is bound, and the first build of a
pipeline without a context binds it after its check.
-/

namespace Filtergraph

namespace World

/-- What has been done since an earlier world. -/
def eventsSince (before after : World) : List Event :=
  after.trace.drop before.trace.length

theorem eventsSince_afterNotes (world : World) (logger : String) (notes : List Note) :
    eventsSince world (world.afterNotes logger notes) = notes.map (.note logger) :=
  List.drop_left

/-- Binding a pipeline to the context that it is bound to changes nothing. -/
theorem bindPipeline_of_bound
    {world : World}
    {id : PipelineId}
    {context : ContextId}
    (bound : (world.pipeline id).context = some context) :
    world.bindPipeline id context = world := by
  have same : ({ world.pipeline id with context := some context } : Pipeline) =
      world.pipeline id := by
    rw [← bound]
  rw [bindPipeline, same, setPipeline, World.pipeline, set_getD]

end World

namespace Pipeline

open World

variable {world : World}
variable {id : PipelineId}
variable {usual : ContextId}

/-- The context of a pipeline where there is a default one. -/
def contextOr (world : World) (id : PipelineId) (usual : ContextId) : ContextId :=
  (world.pipeline id).context.getD usual

theorem obtainContext_of_default
    (known : world.defaultContext = some usual)
    (id : PipelineId) :
    (obtainContext id).perform world =
      (.ok (contextOr world id usual), world.bindPipeline id (contextOr world id usual)) := by
  rw [perform_obtainContext, contextOr]
  cases bound : (world.pipeline id).context with
  | some context => rw [Option.getD_some, bindPipeline_of_bound bound]
  | none => rw [Context.perform_obtainDefault, known]; rfl

theorem bound_bindPipeline
    (there : id < world.pipelines.length)
    (context : ContextId) :
    ((world.bindPipeline id context).pipeline id).context = some context := by
  rw [bindPipeline, pipeline_setPipeline, if_pos ⟨rfl, there⟩]

section Build

variable (id : PipelineId)
variable (source : Source)
variable (output : Argument)
variable (format : Option Format)
variable (tool : Value)
variable (strict : Bool)

theorem build_of_error
    {failure : Failure}
    (fails : (orderReport id tool strict world).outcome = .error failure) :
    (build id source output format tool strict).perform world =
      (.error failure, notedWorld id tool strict world) := by
  rw [orderReport] at fails
  rw [perform_build]
  dsimp only
  rw [fails]
  rfl

/-- Where there is a default context, filters that pass the check are all that a command needs. -/
theorem build_of_ok
    {inOrder : List FilterId}
    (known : world.defaultContext = some usual)
    (passes : (orderReport id tool strict world).outcome = .ok inOrder) :
    (build id source output format tool strict).perform world =
      (assemble (world.context (contextOr world id usual)).encoder source output format
          (inOrder.map world.filter),
        (notedWorld id tool strict world).bindPipeline id (contextOr world id usual)) := by
  have obtains := obtainContext_of_default
    (show (notedWorld id tool strict world).defaultContext = some usual from known) id
  rw [notedWorld, orderReport] at obtains
  rw [orderReport] at passes
  rw [perform_build]
  dsimp only
  rw [passes, obtains]
  rfl

/-- A command that is built again is the same, and leaves the same notes where the notes on the
pipeline go by then. -/
theorem perform_build_again
    (there : id < world.pipelines.length)
    (known : world.defaultContext = some usual) :
    let first := (build id source output format tool strict).perform world
    (build id source output format tool strict).perform first.2 =
      (first.1, first.2.afterNotes (first.2.loggerOfPipeline id)
        (orderReport id tool strict world).notes) := by
  have noting : Prepares world (notedWorld id tool strict world) := prepares_afterNotes _ _ _
  cases ordered : (orderReport id tool strict world).outcome with
  | error failure =>
      have same := orderReport_of_prepares id tool strict noting
      rw [build_of_error id source output format tool strict ordered]
      dsimp only
      rw [build_of_error id source output format tool strict (same ▸ ordered), notedWorld, same]
  | ok inOrder =>
      rw [build_of_ok id source output format tool strict known ordered]
      dsimp only
      set context := contextOr world id usual with contextEq
      set after := (notedWorld id tool strict world).bindPipeline id context with afterEq
      have knownToo : after.defaultContext = some usual := known
      have bound : (after.pipeline id).context = some context := bound_bindPipeline there context
      have same := orderReport_of_prepares id tool strict
        (noting.trans (prepares_bindPipeline _ id context))
      have sameContext : contextOr after id usual = context := by
        rw [contextOr, bound, Option.getD_some]
      have noBinding : (notedWorld id tool strict after).bindPipeline id context =
          notedWorld id tool strict after := bindPipeline_of_bound bound
      rw [build_of_ok id source output format tool strict knownToo (same ▸ ordered), sameContext,
        noBinding, notedWorld, same]
      rfl

/-- The notes of the first build go where the notes on the pipeline go before it. -/
theorem eventsSince_build
    (known : world.defaultContext = some usual) :
    eventsSince world ((build id source output format tool strict).perform world).2 =
      (orderReport id tool strict world).notes.map (.note (world.loggerOfPipeline id)) := by
  cases ordered : (orderReport id tool strict world).outcome with
  | error failure =>
      rw [build_of_error id source output format tool strict ordered]
      exact eventsSince_afterNotes _ _ _
  | ok inOrder =>
      rw [build_of_ok id source output format tool strict known ordered]
      exact eventsSince_afterNotes _ _ _

/-- A build whose filters are in order binds the pipeline, and the notes on it go to the logger of
its context from then on. -/
theorem logger_after_build
    {inOrder : List FilterId}
    (there : id < world.pipelines.length)
    (known : world.defaultContext = some usual)
    (ordered : (orderReport id tool strict world).outcome = .ok inOrder) :
    ((build id source output format tool strict).perform world).2.loggerOfPipeline id =
      (world.context (contextOr world id usual)).logger := by
  have bound := bound_bindPipeline
    (show id < (notedWorld id tool strict world).pipelines.length from there)
    (contextOr world id usual)
  rw [build_of_ok id source output format tool strict known ordered, loggerOfPipeline, bound]
  rfl

/-- The notes of the second build go where the notes on the pipeline go after the first one. -/
theorem eventsSince_again
    (there : id < world.pipelines.length)
    (known : world.defaultContext = some usual) :
    let first := (build id source output format tool strict).perform world
    let second := (build id source output format tool strict).perform first.2
    eventsSince first.2 second.2 =
      (orderReport id tool strict world).notes.map (.note (first.2.loggerOfPipeline id)) := by
  intro first second
  have again : second = _ := perform_build_again id source output format tool strict there known
  rw [again]
  exact eventsSince_afterNotes _ _ _

theorem map_note_eq_iff
    {notes : List Note}
    {logger loggerToo : String} :
    notes.map (Event.note logger) = notes.map (Event.note loggerToo) ↔
      notes = [] ∨ logger = loggerToo := by
  cases notes with
  | nil => simp
  | cons note rest =>
      constructor
      · intro same
        exact .inr (Event.note.inj (List.cons.inj same).1).1
      · rintro (empty | rfl)
        · cases empty
        · rfl

end Build

/-- Where there is a default context, a command that is built twice in a row is the same both times,
and the notes of the second build go to the logger of the context whose tool the command names.  The
first build leaves the same notes in the same place exactly if the pipeline was bound before, or its
filters do not pass the check, or nothing is noted, or the default context has the logger of
pipelines without a context. -/
theorem build_again_iff
    (there : id < world.pipelines.length)
    (known : world.defaultContext = some usual)
    (source : Source)
    (output : Argument)
    (format : Option Format)
    (tool : Value)
    (strict : Bool) :
    let report := Filter.ordered world.filter (world.pipeline id).filters tool strict
    let first := (build id source output format tool strict).perform world
    let second := (build id source output format tool strict).perform first.2
    second.1 = first.1 ∧
      eventsSince world first.2 = report.notes.map (.note (world.loggerOfPipeline id)) ∧
      (∀ arguments, first.1 = .ok arguments ->
        arguments.head? = some (world.context (contextOr world id usual)).encoder ∧
          eventsSince first.2 second.2 =
            report.notes.map (.note (world.context (contextOr world id usual)).logger)) ∧
      (eventsSince first.2 second.2 = eventsSince world first.2 ↔
        (world.pipeline id).context ≠ none ∨ (∃ failure, report.outcome = .error failure) ∨
          report.notes = [] ∨ (world.context usual).logger = pipelineLogger) := by
  intro report first second
  have again : second = _ := perform_build_again id source output format tool strict there known
  have before : eventsSince world first.2 = report.notes.map (.note (world.loggerOfPipeline id)) :=
    eventsSince_build id source output format tool strict known
  have after : eventsSince first.2 second.2 =
      report.notes.map (.note (first.2.loggerOfPipeline id)) :=
    eventsSince_again id source output format tool strict there known
  refine ⟨by rw [again], before, ?_, ?_⟩
  · intro arguments built
    cases ordered : report.outcome with
    | error failure =>
        have failed : first = _ := build_of_error id source output format tool strict ordered
        rw [failed] at built
        cases built
    | ok inOrder =>
        have ok : first = _ := build_of_ok id source output format tool strict known ordered
        have logger : first.2.loggerOfPipeline id = _ :=
          logger_after_build id source output format tool strict there known ordered
        refine ⟨?_, ?_⟩
        · rw [ok] at built
          obtain ⟨parts, codec, -, -, rfl⟩ := assemble_eq_ok_iff.mp built
          rfl
        · rw [after, logger]
  · rw [after, before, map_note_eq_iff]
    cases ordered : report.outcome with
    | error failure =>
        have failed : first = _ := build_of_error id source output format tool strict ordered
        have sameLogger : first.2.loggerOfPipeline id = world.loggerOfPipeline id := by
          rw [failed]
          rfl
        exact iff_of_true (.inr sameLogger) (.inr (.inl ⟨failure, rfl⟩))
    | ok inOrder =>
        have logger : first.2.loggerOfPipeline id = _ :=
          logger_after_build id source output format tool strict there known ordered
        rw [logger, loggerOfPipeline, contextOr]
        cases (world.pipeline id).context with
        | some context => simp
        | none => simp [report]

/-- A filter that needs a recent release, in a pipeline without a context, and a default context. -/
def unboundPreparation : List (Operation × List Outcome) := [
  (.newFilter "new" (.fixed { name := .plain (.text "new") }
    { minimum := some (.plain (.text "5.0")) }), []),
  (.newPipeline "p" none, []),
  (.add "p" ["new"], []),
  (.showDefault, [])]

/-- The world with that filter, that pipeline and a default context. -/
def unboundWorld : World where
  contexts := [⟨Context.defaultEncoder, Context.defaultProber, defaultLogger,
    ⟨defaultLogger, .null⟩, none⟩]
  defaultContext := some 0
  filters := [Filter.requiringTag ("new", 0, "5.0")]
  pipelines := [{ filters := [0] }]
  trace := [.call (releaseCall Context.defaultEncoder), .call (releaseCall Context.defaultProber),
    .note defaultLogger Context.verifiedNote]

theorem world_reached_unboundPreparation :
    (Session.reached unboundPreparation).world = unboundWorld := by
  let tag := Filter.requiringTag ("new", 0, "5.0")
  let filtered : Session := { world := { filters := [tag] }, filters := [("new", 0)] }
  let piped : Session := { filtered with
    world := { filters := [tag], pipelines := [{}] }
    pipelines := [("p", 0)] }
  let added : Session := { piped with
    world := { filters := [tag], pipelines := [{ filters := [0] }] } }
  have first : (Session.step {} (.newFilter "new" (.fixed { name := .plain (.text "new") }
      { minimum := some (.plain (.text "5.0")) })) []).2 = filtered := rfl
  have second : (filtered.step (.newPipeline "p" none) []).2 = piped := rfl
  have third : (piped.step (.add "p" ["new"]) []).2 = added := rfl
  rw [Session.reached, unboundPreparation, Session.run_cons, first, Session.run_cons, second,
    Session.run_cons, third]
  rfl

theorem orderReport_unboundWorld :
    orderReport 0 (.text "4.4") false unboundWorld =
      ⟨[⟨.warning, "Filter 'new' requires FFmpeg >= 5.0, found 4.4"⟩], .ok [0]⟩ := by
  have arranges : Filter.arrange unboundWorld.filter [0] = .ok [0] := by
    rw [Filter.arrange, List.mergeSort_singleton]
    rfl
  have older : (Filter.requiringTag ("new", 0, "5.0")).Outdated "4.4" :=
    ⟨[4, 4], [5, 0], ⟨"5.0", rfl, rfl, rfl⟩, by decide⟩
  have added : (unboundWorld.pipeline 0).filters = [0] := rfl
  have filters : [0].map unboundWorld.filter = [Filter.requiringTag ("new", 0, "5.0")] := rfl
  rw [orderReport, added, Filter.ordered_eq arranges, filters, Filter.releaseCheck_text (by decide),
    Filter.checkReleases, Filter.checkRelease_of_outdated older]
  rfl

/-- Once the pipeline is bound, both builds leave their warning with the logger of the context. -/
theorem build_again_bound :
    let world := unboundWorld.bindPipeline 0 0
    let first := (build 0 (.single ⟨"in.mp4"⟩) (.text "out.mp4") none (.text "4.4") false).perform
      world
    let second := (build 0 (.single ⟨"in.mp4"⟩) (.text "out.mp4") none (.text "4.4") false).perform
      first.2
    0 < world.pipelines.length ∧ world.defaultContext = some 0 ∧ second.1 = first.1 ∧
      eventsSince world first.2 = [.note "ffmpegfilters.media.context"
        ⟨.warning, "Filter 'new' requires FFmpeg >= 5.0, found 4.4"⟩] ∧
      eventsSince first.2 second.2 = eventsSince world first.2 := by
  intro world first second
  have there : 0 < world.pipelines.length := by decide
  have known : world.defaultContext = some 0 := rfl
  have bound : (world.pipeline 0).context ≠ none := by decide
  have report : Filter.ordered world.filter (world.pipeline 0).filters (.text "4.4") false = _ :=
    orderReport_unboundWorld
  obtain ⟨same, before, -, again⟩ :=
    build_again_iff there known (.single ⟨"in.mp4"⟩) (.text "out.mp4") none (.text "4.4") false
  rw [report] at before
  exact ⟨there, known, same, before, again.mpr (.inl bound)⟩

/-- In a world that operations reach, the warning of the first build goes to the logger of pipelines
without a context, and that of the second build to the logger of the default context. -/
theorem build_again_warns_elsewhere :
    let world := (Session.reached unboundPreparation).world
    let first := (build 0 (.single ⟨"in.mp4"⟩) (.text "out.mp4") none (.text "4.4") false).perform
      world
    let second := (build 0 (.single ⟨"in.mp4"⟩) (.text "out.mp4") none (.text "4.4") false).perform
      first.2
    world.defaultContext = some 0 ∧ 0 < world.pipelines.length ∧
      eventsSince world first.2 = [.note "ffmpegfilters.filters.pipeline"
        ⟨.warning, "Filter 'new' requires FFmpeg >= 5.0, found 4.4"⟩] ∧
      eventsSince first.2 second.2 = [.note "ffmpegfilters.media.context"
        ⟨.warning, "Filter 'new' requires FFmpeg >= 5.0, found 4.4"⟩] ∧
      eventsSince first.2 second.2 ≠ eventsSince world first.2 := by
  rw [world_reached_unboundPreparation]
  intro world first second
  have known : world.defaultContext = some 0 := rfl
  have there : 0 < world.pipelines.length := by decide
  have report : orderReport 0 (.text "4.4") false world = _ := orderReport_unboundWorld
  have before : eventsSince world first.2 = _ :=
    eventsSince_build 0 (.single ⟨"in.mp4"⟩) (.text "out.mp4") none (.text "4.4") false known
  have after : eventsSince first.2 second.2 = _ :=
    eventsSince_again 0 (.single ⟨"in.mp4"⟩) (.text "out.mp4") none (.text "4.4") false there known
  have logger := logger_after_build 0 (.single ⟨"in.mp4"⟩) (.text "out.mp4") none (.text "4.4")
    false there known (congrArg Report.outcome report)
  rw [logger, report] at after
  rw [report] at before
  refine ⟨known, there, before, after, ?_⟩
  rw [before, after]
  exact fun same => absurd (map_note_eq_iff.mp same) (by decide)

end Pipeline
end Filtergraph
