import Filtergraph.Proofs.Session.Kinds

/-!
# Uses that bind pipelines

A use of a pipeline without a context asks for the default one, at a place of its own, and binds the
pipeline to what it obtains.  No other operation binds a pipeline.
-/

namespace Filtergraph

open World

namespace Pipeline

variable {world asked : World}
variable {id : PipelineId}

theorem asksIn_eq_some_iff :
    asksIn id world = some asked ↔ (world.pipeline id).context = none ∧ world = asked := by
  rw [asksIn]
  cases (world.pipeline id).context <;> simp

theorem buildAsksIn_eq_some_iff
    {tool : Value}
    {strict : Bool} :
    buildAsksIn id tool strict world = some asked ↔
      (∃ inOrder, (orderReport id tool strict world).outcome = .ok inOrder) ∧
        (world.pipeline id).context = none ∧ notedWorld id tool strict world = asked := by
  have same : ((notedWorld id tool strict world).pipeline id).context =
      (world.pipeline id).context := rfl
  rw [buildAsksIn]
  cases (orderReport id tool strict world).outcome with
  | error failure => simp
  | ok inOrder => simp [asksIn_eq_some_iff, same]

variable {outcome : Except Failure ContextId}
variable {got : World}

/-- A pipeline without a context is bound to the default one, if that is obtained. -/
theorem binding_of_obtainDefault
    (unbound : (asked.pipeline id).context = none)
    (obtained : Context.obtainDefault.perform asked = (outcome, got))
    (there : id < asked.pipelines.length) :
    (((obtainContext id).perform asked).2.pipeline id).context = outcome.toOption := by
  have samePipelines : got.pipelines = asked.pipelines := by
    rw [← SessionAction.pipelines_obtainDefault asked, obtained]
  rw [perform_obtainContext, unbound]
  dsimp only
  rw [obtained]
  cases outcome with
  | error failure =>
      rw [World.pipeline, samePipelines]
      exact unbound
  | ok context =>
      dsimp only
      rw [bindPipeline, pipeline_setPipeline, if_pos ⟨rfl, samePipelines ▸ there⟩]
      rfl

theorem binding_of_build
    {tool : Value}
    {strict : Bool}
    (asks : buildAsksIn id tool strict world = some asked)
    (obtained : Context.obtainDefault.perform asked = (outcome, got))
    (there : id < world.pipelines.length)
    (source : Source)
    (output : Argument)
    (format : Option Format) :
    (((build id source output format tool strict).perform world).2.pipeline id).context =
      outcome.toOption := by
  obtain ⟨⟨inOrder, passes⟩, unbound, rfl⟩ := buildAsksIn_eq_some_iff.mp asks
  have unboundToo : ((notedWorld id tool strict world).pipeline id).context = none := unbound
  have binding := binding_of_obtainDefault unboundToo obtained there
  rw [notedWorld, orderReport] at binding
  rw [orderReport] at passes
  rw [perform_build]
  dsimp only
  rw [passes, ← binding]
  dsimp only
  rcases (obtainContext id).perform _ with ⟨failure | context, bound⟩ <;> rfl

/-- A run goes on from where its pipeline has got a context. -/
theorem perform_run_of_obtained
    {context : ContextId}
    {bound : World}
    (obtained : (obtainContext id).perform world = (.ok context, bound))
    (source : Source)
    (output : Argument)
    (format : Option Format)
    (strict : Bool) :
    (run id source output format strict).perform world =
      (run id source output format strict).perform bound := by
  rw [perform_run, perform_run, obtained, (settled_of_obtainContext obtained).obtain]

end Pipeline

namespace SessionAction

/-- What only reads the session afterwards leaves the world to the action before. -/
theorem world_act_bind
    {action : Action α}
    {next : α -> SessionAction β}
    {session : Session}
    (reads : ∀ a after, ((next a).perform after).2 = after) :
    ((act action >>= next).perform session).2.world = (action.perform session.world).2 := by
  rw [perform_bind, perform_act]
  rcases action.perform session.world with ⟨failure | a, after⟩
  · rfl
  · dsimp only
    rw [reads]

end SessionAction

namespace Use

open SessionAction

/-- Where a use asks for the default context, its pipeline is bound to what is obtained. -/
theorem binding_of_asks
    {use : Use}
    {session : Session}
    {id : PipelineId}
    {asked got : World}
    {outcome : Except Failure ContextId}
    (asks : use.asksIn id session.world = some asked)
    (obtained : Context.obtainDefault.perform asked = (outcome, got))
    (there : id < session.world.pipelines.length) :
    (((use.perform id).perform session).2.world.pipeline id).context = outcome.toOption := by
  cases use with
  | context =>
      obtain ⟨unbound, rfl⟩ := Pipeline.asksIn_eq_some_iff.mp asks
      rw [perform, world_act_bind fun _ _ => rfl]
      exact Pipeline.binding_of_obtainDefault unbound obtained there
  | compile format tool strict => cases asks
  | build source output format tool strict =>
      rw [perform, world_act_bind fun _ _ => rfl]
      exact Pipeline.binding_of_build asks obtained there source output format
  | dryRun source output format =>
      rw [perform, world_act_bind fun _ _ => rfl,
        ← Pipeline.binding_of_build asks obtained there source output format, Pipeline.dryRun,
        Action.perform_bind]
      rcases (Pipeline.build id source output format .null false).perform session.world with
        ⟨failure | arguments, after⟩ <;> rfl
  | run source output format strict =>
      obtain ⟨unbound, rfl⟩ := Pipeline.asksIn_eq_some_iff.mp asks
      have binding := Pipeline.binding_of_obtainDefault unbound obtained there
      rw [perform, world_act_bind fun _ _ => rfl]
      have obtains := Pipeline.perform_obtainContext id session.world
      rw [unbound] at obtains
      dsimp only at obtains
      rw [obtained] at obtains
      cases outcome with
      | error failure =>
          rw [obtains] at binding
          rw [Pipeline.perform_run, obtains]
          exact binding
      | ok context =>
          rw [obtains] at binding
          rw [Pipeline.perform_run_of_obtained obtains]
          exact (within_run source output format strict id
            { session with world := got.bindPipeline id context }).bound binding

theorem asks_of_binding
    {use : Use}
    {id other : PipelineId}
    {world : World}
    (binds : .binding id ∈ use.kinds other world) :
    id = other ∧ ∃ asked, use.asksIn other world = some asked := by
  cases asks : use.asksIn other world <;> cases use <;>
    simp_all [kinds, Session.Kind.ifAsks]

end Use

namespace Operation

open SessionAction
open Session (Kind)

/-- The pipeline that an operation is about. -/
def pipeline? (session : Session) : Operation -> Option PipelineId
  | .add pipeline _ => session.pipelines.lookup pipeline
  | .list pipeline => session.pipelines.lookup pipeline
  | .showContext pipeline => session.pipelines.lookup pipeline
  | .compile pipeline _ _ _ => session.pipelines.lookup pipeline
  | .build pipeline _ _ _ _ _ => session.pipelines.lookup pipeline
  | .dryRun pipeline _ _ _ => session.pipelines.lookup pipeline
  | .run pipeline _ _ _ _ => session.pipelines.lookup pipeline
  | _ => none

/-- An operation that needs no context: filters are added, listed or compiled. -/
def contextFree : Operation -> Bool
  | .add _ _ | .list _ | .compile _ _ _ _ => true
  | _ => false

variable {operation : Operation}
variable {session : Session}
variable {id : PipelineId}
variable {asked : World}

theorem toOption_lookedUp (found : Option α) (name : String) :
    (lookedUp found name).toOption = found := by
  cases found <;> rfl

theorem pipeline_of_use
    {use : Use}
    (uses : operation.use? session = some (id, use)) :
    operation.pipeline? session = some id := by
  cases operation with
  | showContext _ | compile _ _ _ _ | build _ _ _ _ _ _ | dryRun _ _ _ _ | run _ _ _ _ _ =>
      simp only [use?, toOption_lookedUp, Option.bind_eq_bind, Option.bind_eq_some_iff,
        Option.pure_def, Option.some.injEq, Prod.mk.injEq] at uses
      grind [pipeline?]
  | _ => cases uses

theorem asksIn_of_use
    {use : Use}
    (uses : operation.use? session = some (id, use)) :
    operation.asksIn session = use.asksIn id session.world := by
  rw [asksIn_eq_use (isUse_of_use uses), uses]
  rfl

theorem use_of_asks
    (about : operation.pipeline? session = some id)
    (asks : operation.asksIn session = some asked) :
    ∃ use, operation.use? session = some (id, use) ∧ use.asksIn id session.world = some asked := by
  cases operation with
  | showContext _ | compile _ _ _ _ | build _ _ _ _ _ _ | dryRun _ _ _ _ | run _ _ _ _ _ =>
      rw [asksIn_eq_use rfl] at asks
      obtain ⟨⟨other, use⟩, uses, asks⟩ := Option.bind_eq_some_iff.mp asks
      obtain rfl := Option.some.inj ((pipeline_of_use uses).symm.trans about)
      exact ⟨use, uses, asks⟩
  | add _ _ | list _ => cases asks
  | _ => cases about

/-- Where the default context is asked for, it is asked for a pipeline without a context. -/
theorem unbound_of_asks
    (about : operation.pipeline? session = some id)
    (asks : operation.asksIn session = some asked) :
    (session.world.pipeline id).context = none := by
  obtain ⟨use, -, asks⟩ := use_of_asks about asks
  cases use with
  | compile format tool strict => cases asks
  | context | run _ _ _ _ => exact (Pipeline.asksIn_eq_some_iff.mp asks).1
  | build _ _ _ _ _ | dryRun _ _ _ => exact (Pipeline.buildAsksIn_eq_some_iff.mp asks).2.1

/-- An operation binds no pipeline but the one that it is about, and only where it asks for the
default context. -/
theorem asks_of_binding
    (binds : .binding id ∈ operation.kinds session) :
    operation.pipeline? session = some id ∧ ∃ asked, operation.asksIn session = some asked := by
  cases operation with
  | showContext _ | compile _ _ _ _ | build _ _ _ _ _ _ | dryRun _ _ _ _ | run _ _ _ _ _ =>
      rw [kinds_of_isUse rfl] at binds
      cases uses : use? session _ with
      | none =>
          rw [uses] at binds
          cases binds
      | some used =>
          rw [uses] at binds
          obtain ⟨rfl, asked, asks⟩ := Use.asks_of_binding binds
          exact ⟨pipeline_of_use uses, asked, (asksIn_of_use uses).trans asks⟩
  | add pipeline filters => simp [mem_kinds_add] at binds
  | assign filter property value => simp [mem_kinds_assign] at binds
  | _ => simp [kinds, Kind.obtaining] at binds

end Operation
end Filtergraph
