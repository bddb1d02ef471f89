import Filtergraph.Proofs.Filter.Compilation
import Filtergraph.Proofs.World.Contexts

/-!
# Commands of pipelines

A pipeline that has got its context keeps it.  From then on a command is built without any call:
the filters are put in order, checked, and joined behind the inputs, and all that is left behind
are the notes of the check.
-/

namespace Filtergraph
namespace Pipeline

open World

variable {world after : World}
variable {id : PipelineId}
variable {context : ContextId}

/-! ## Getting a context -/

/-- A pipeline that is bound has its context; any other one is bound to the default context. -/
theorem perform_obtainContext (id : PipelineId) (world : World) :
    (obtainContext id).perform world =
      match (world.pipeline id).context with
      | some context => (.ok context, world)
      | none =>
        match Context.obtainDefault.perform world with
        | (.ok context, made) => (.ok context, made.bindPipeline id context)
        | (.error failure, tried) => (.error failure, tried) := by
  rw [obtainContext, Action.perform_bind, Action.perform_get]
  dsimp only
  cases (world.pipeline id).context with
  | some context => rfl
  | none =>
      simp only [Action.perform_bind, Action.perform_modify, Action.perform_pure]
      rcases Context.obtainDefault.perform world with ⟨outcome, made⟩
      cases outcome <;> rfl

theorem prepares_obtainContext (id : PipelineId) (world : World) :
    Prepares world ((obtainContext id).perform world).2 := by
  have defaults := Context.prepares_obtainDefault world
  rw [perform_obtainContext]
  split
  · exact .refl world
  · split
    · next context made performed =>
      rw [performed] at defaults
      exact defaults.trans (prepares_bindPipeline made id context)
    · next failure tried performed =>
      rw [performed] at defaults
      exact defaults

/-- The context of a pipeline is known: the pipeline is bound to it, or there is no such pipeline
and it is the default context. -/
inductive Settled (world : World) (id : PipelineId) (context : ContextId) : Prop where
  | bound (known : (world.pipeline id).context = some context)
  | absent
      (outside : world.pipelines.length ≤ id)
      (known : world.defaultContext = some context)

/-- Where the context of a pipeline is known, getting it changes nothing. -/
theorem Settled.obtain (settled : Settled world id context) :
    (obtainContext id).perform world = (.ok context, world) := by
  rw [perform_obtainContext]
  cases settled with
  | bound known => rw [known]
  | absent outside known =>
      have unbound : world.pipeline id = default := by
        rw [World.pipeline, List.getElem?_eq_none outside]
        rfl
      have unchanged : world.bindPipeline id context = world := by
        rw [bindPipeline, setPipeline, List.set_eq_of_length_le outside]
      rw [unbound, Context.perform_obtainDefault, known]
      exact congrArg (Except.ok context, ·) unchanged

/-- Once a pipeline has got its context, that context is known. -/
theorem settled_of_obtainContext
    (obtained : (obtainContext id).perform world = (.ok context, after)) :
    Settled after id context := by
  rw [perform_obtainContext] at obtained
  split at obtained
  · next known =>
    obtain ⟨sameContext, rfl⟩ := Prod.mk.inj obtained
    exact .bound (known.trans (congrArg some (Except.ok.inj sameContext)))
  · split at obtained
    · next made performed =>
      have known := Context.defaultContext_of_obtainDefault performed
      obtain ⟨sameContext, rfl⟩ := Prod.mk.inj obtained
      obtain rfl := Except.ok.inj sameContext
      by_cases inside : id < made.pipelines.length
      · apply Settled.bound
        rw [bindPipeline, pipeline_setPipeline, if_pos ⟨rfl, inside⟩]
      · apply Settled.absent
        · rw [bindPipeline, setPipeline, List.length_set]
          exact Nat.le_of_not_lt inside
        · exact known
    · cases (Prod.mk.inj obtained).1

/-- The context stays known as long as nothing is bound. -/
theorem Settled.of_sameBindings
    (settled : Settled world id context)
    (same : SameBindings world after) :
    Settled after id context := by
  cases settled with
  | bound known =>
      apply Settled.bound
      rw [World.pipeline, same.pipelines]
      exact known
  | absent outside known =>
      apply Settled.absent
      · rw [same.pipelines]
        exact outside
      · rw [same.defaultContext]
        exact known

/-- What has been done before has no effect on the context of a pipeline. -/
theorem perform_obtainContext_withTrace (id : PipelineId) (world : World) (trace : List Event) :
    ∃ later, (obtainContext id).perform (world.withTrace trace) =
      (((obtainContext id).perform world).1,
        ((obtainContext id).perform world).2.withTrace later) := by
  obtain ⟨later, obtained⟩ := Context.perform_obtainDefault_withTrace world trace
  have samePipeline : (world.withTrace trace).pipeline id = world.pipeline id := rfl
  rw [perform_obtainContext, perform_obtainContext, samePipeline, obtained]
  cases (world.pipeline id).context with
  | some context => exact ⟨trace, rfl⟩
  | none =>
      rcases Context.obtainDefault.perform world with ⟨failure | context, made⟩
      · exact ⟨later, rfl⟩
      · exact ⟨later, rfl⟩

/-- Notes taken before do not change which context a pipeline gets. -/
theorem obtainContext_afterNotes
    (obtained : (obtainContext id).perform world = (.ok context, after))
    (logger : String)
    (notes : List Note) :
    ∃ later, (obtainContext id).perform (world.afterNotes logger notes) =
      (.ok context, after.withTrace later) := by
  have noted := perform_obtainContext_withTrace id world (world.afterNotes logger notes).trace
  rwa [obtained] at noted

/-! ## Building a command -/

/-- A command is assembled exactly if all filters contribute and the format has arguments. -/
theorem assemble_eq_ok_iff
    {encoder output : Argument}
    {source : Source}
    {format : Option Format}
    {filters : List Filter}
    {arguments : List Argument} :
    assemble encoder source output format filters = .ok arguments ↔
      ∃ parts codec, Filter.Contribute (source.contribution format) filters parts ∧
        codecArguments (source.outputFormat format) = .ok codec ∧
        [encoder, .text "-y"] ++ source.inputArguments ++ parts.flatten ++ codec ++ [output] =
          arguments := by
  simp only [assemble, bind_eq_ok_iff, Filter.gather_eq_ok_iff]
  constructor
  · rintro ⟨_, ⟨parts, each, rfl⟩, codec, encoded, joined⟩
    exact ⟨parts, codec, each, encoded, Except.ok.inj joined⟩
  · rintro ⟨parts, codec, each, encoded, rfl⟩
    exact ⟨parts.flatten, ⟨parts, each, rfl⟩, codec, encoded, rfl⟩

/-- The check that comes first when a command is built, with its notes. -/
def orderReport (id : PipelineId) (tool : Value) (strict : Bool) (world : World) :
    Report (List FilterId) :=
  Filter.ordered world.filter (world.pipeline id).filters tool strict

theorem orderReport_of_prepares
    (id : PipelineId)
    (tool : Value)
    (strict : Bool)
    (prepares : Prepares world after) :
    orderReport id tool strict after = orderReport id tool strict world := by
  rw [orderReport, prepares.filter_eq, prepares.pipelineFilters, orderReport]

/-- The world with the notes of that check. -/
def notedWorld (id : PipelineId) (tool : Value) (strict : Bool) (world : World) : World :=
  world.afterNotes (world.loggerOfPipeline id) (orderReport id tool strict world).notes

/-- A command is built from the filters in order; what has to be done for it is to get a context. -/
theorem perform_build
    (id : PipelineId)
    (source : Source)
    (output : Argument)
    (format : Option Format)
    (tool : Value)
    (strict : Bool)
    (world : World) :
    (build id source output format tool strict).perform world =
      let report := Filter.ordered world.filter (world.pipeline id).filters tool strict
      let noted := world.afterNotes (world.loggerOfPipeline id) report.notes
      match report.outcome with
      | .error failure => (.error failure, noted)
      | .ok inOrder =>
        match (obtainContext id).perform noted with
        | (.error failure, tried) => (.error failure, tried)
        | (.ok context, bound) =>
          (assemble (bound.context context).encoder source output format
            (inOrder.map world.filter), bound) := by
  rw [build, Action.perform_bind, Action.perform_get]
  dsimp only
  rw [Action.perform_bind, Action.perform_ofReport]
  cases (Filter.ordered world.filter (world.pipeline id).filters tool strict).outcome with
  | error failure => rfl
  | ok inOrder =>
      change Action.perform (obtainContext id >>= _) (world.afterNotes _ _) = _
      dsimp only
      rw [Action.perform_bind]
      rcases (obtainContext id).perform (world.afterNotes _ _) with ⟨failure | context, bound⟩ <;>
        rfl

/-- Where the pipeline gets a context, the filters in order decide what is built. -/
theorem build_outcome
    (obtained : (obtainContext id).perform world = (.ok context, after))
    (source : Source)
    (output : Argument)
    (format : Option Format)
    (tool : Value)
    (strict : Bool) :
    ((build id source output format tool strict).perform world).1 =
      ((Filter.ordered world.filter (world.pipeline id).filters tool strict).outcome >>=
        fun inOrder => assemble (after.context context).encoder source output format
          (inOrder.map world.filter)) := by
  rw [perform_build]
  dsimp only
  cases (Filter.ordered world.filter (world.pipeline id).filters tool strict).outcome with
  | error failure => rfl
  | ok inOrder =>
      obtain ⟨later, obtainedToo⟩ := obtainContext_afterNotes obtained
        (world.loggerOfPipeline id)
        (Filter.ordered world.filter (world.pipeline id).filters tool strict).notes
      dsimp only
      rw [obtainedToo]
      rfl

/-- Once the context is known, building a command leaves no more than notes behind. -/
theorem Settled.build_leaves_notes
    (settled : Settled world id context)
    (source : Source)
    (output : Argument)
    (format : Option Format)
    (tool : Value)
    (strict : Bool) :
    ∃ logger notes, ((build id source output format tool strict).perform world).2 =
      world.afterNotes logger notes := by
  refine ⟨world.loggerOfPipeline id,
    (Filter.ordered world.filter (world.pipeline id).filters tool strict).notes, ?_⟩
  have noted : SameBindings world (world.afterNotes (world.loggerOfPipeline id)
      (Filter.ordered world.filter (world.pipeline id).filters tool strict).notes) := ⟨rfl, rfl⟩
  rw [perform_build]
  dsimp only
  rw [(settled.of_sameBindings noted).obtain]
  cases (Filter.ordered world.filter (world.pipeline id).filters tool strict).outcome <;> rfl

/-- A command is built exactly if the filters can be put in order and pass the check, all of them
contribute, and the format has arguments. -/
theorem build_eq_ok_iff
    (obtained : (obtainContext id).perform world = (.ok context, after))
    {source : Source}
    {output : Argument}
    {format : Option Format}
    {tool : Value}
    {strict : Bool}
    {arguments : List Argument} :
    ((build id source output format tool strict).perform world).1 = .ok arguments ↔
      ∃ inOrder parts codec,
        Filter.arrange world.filter (world.pipeline id).filters = .ok inOrder ∧
        (Filter.releaseCheck tool strict (inOrder.map world.filter)).outcome = .ok () ∧
        Filter.Contribute (source.contribution format) (inOrder.map world.filter) parts ∧
        codecArguments (source.outputFormat format) = .ok codec ∧
        [((after.context context).encoder : Argument), .text "-y"] ++ source.inputArguments ++
          parts.flatten ++ codec ++ [output] = arguments := by
  rw [build_outcome obtained]
  simp only [bind_eq_ok_iff, Filter.ordered_outcome_eq_ok_iff, assemble_eq_ok_iff, and_assoc,
    exists_and_left]

end Pipeline
end Filtergraph
