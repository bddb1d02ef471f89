import Filtergraph.Proofs.Session.BindingUses
import Filtergraph.Proofs.Session.BoundUses
import Filtergraph.Proofs.Session.Soundness

/-!
# The contexts of pipelines over runs

A pipeline has the context that it was made with, or else the first one that is obtained for it, and
keeps it.  From then on it is used in this context alone, whatever becomes of the default one.
-/

namespace Filtergraph

open World

namespace Session

open SessionAction

/-- The session with a further pipeline, of this name, with a context or without one. -/
def withPipeline (session : Session) (name : String) (context : Option ContextId) : Session :=
  { session with
    world := { session.world with pipelines := session.world.pipelines ++ [{ context }] }
    pipelines := session.pipelines.bind name session.world.pipelines.length }

/-- The context that a step obtains for a pipeline, if it asks for the default one on its behalf. -/
def obtainsFor
    (session : Session)
    (id : PipelineId)
    (operation : Operation)
    (script : List Outcome) : Option ContextId :=
  if operation.pipeline? session = some id then
    (operation.asksIn (session.ready script)).bind fun asked =>
      (Context.obtainDefault.perform asked).1.toOption
  else none

/-- The first context that is obtained for a pipeline in a run. -/
def obtainedFor (session : Session) (id : PipelineId) :
    List (Operation × List Outcome) -> Option ContextId
  | [] => none
  | (operation, script) :: rest =>
    (session.obtainsFor id operation script).or
      ((session.step operation script).2.obtainedFor id rest)

/-- The contexts, the default one and the contexts of pipelines are the same, and nothing was
called. -/
structure KeepsContexts (before after : Session) : Prop where
  contexts : after.world.contexts = before.world.contexts
  usual : after.world.defaultContext = before.world.defaultContext
  bindings : ∀ id, (after.world.pipeline id).context = (before.world.pipeline id).context
  calls : Called before.world after.world []

/-- In a step the default context is asked for on behalf of a pipeline without a context.  The
pipeline is then bound to what is the default context, and stays without one if there is none. -/
structure FirstUse
    (session : Session)
    (id : PipelineId)
    (operation : Operation)
    (script : List Outcome)
    (outcome : Except Failure ContextId) : Prop where
  unbound : (session.world.pipeline id).context = none
  current : ∀ usual, session.world.defaultContext = some usual -> outcome = .ok usual
  usual : (session.step operation script).2.world.defaultContext = outcome.toOption
  binding : ((session.step operation script).2.world.pipeline id).context = outcome.toOption
  answered : ∀ failure, outcome = .error failure ->
    (session.step operation script).1.outcome = .error failure

/-- A pipeline is bound to a context.  All its uses are uses in this context; they are the same with
any default context, which they leave as it is, and make no context. -/
structure UsedIn (session : Session) (id : PipelineId) (context : ContextId) : Prop where
  bound : (session.world.pipeline id).context = some context
  uses : ∀ (operation : Operation) script (use : Use),
    operation.use? session = some (id, use) ->
    operation.perform.perform (session.ready script) =
      (use.performIn context id).perform (session.ready script)
  indifferent : ∀ (operation : Operation) script usual,
    operation.pipeline? session = some id ->
    (session.withDefault usual).step operation script =
      ((session.step operation script).1, (session.step operation script).2.withDefault usual)
  makesNone : ∀ (operation : Operation) script,
    operation.pipeline? session = some id ->
    (session.step operation script).2.world.contexts.length = session.world.contexts.length

variable {session : Session}
variable {operation : Operation}
variable {script : List Outcome}
variable {id : PipelineId}
variable {context : ContextId}

theorem pipeline_ready :
    operation.pipeline? (session.ready script) = operation.pipeline? session := by
  cases operation <;> rfl

theorem use_ready : operation.use? (session.ready script) = operation.use? session := by
  cases operation <;> rfl

/-! ## Steps -/

/-- A pipeline is made with the context that is found, or with none. -/
theorem step_newPipeline
    {name : String}
    {request : Option String}
    {found : Option ContextId}
    (looked : lookedUpOption session.contexts request = .ok found)
    (script : List Outcome) :
    session.step (.newPipeline name request) script =
      (⟨.ok (.filters []), []⟩, (session.ready script).withPipeline name found) := by
  have empty : ((session.ready script).withPipeline name found).world.pipelineFilters
      session.world.pipelines.length = [] := by
    have last := pipeline_concat (session.ready script).world { context := found }
      (session.ready script).world.pipelines.length
    rw [if_pos rfl] at last
    exact congrArg (fun made : Pipeline =>
      made.filters.map ((session.ready script).withPipeline name found).world.filter) last
  have performed : (Operation.newPipeline name request).perform.perform (session.ready script) =
      (.ok (.filters []), (session.ready script).withPipeline name found) := by
    have reads : Reads (findOption Session.contexts request) (session.ready script) _ :=
      reads_findOption (fun _ => rfl) request
    refine (reads.perform_bind_ok looked).trans ?_
    change (Except.ok (Reply.filters (List.map Filter.name
      (((session.ready script).withPipeline name found).world.pipelineFilters
        session.world.pipelines.length))), (session.ready script).withPipeline name found) = _
    rw [empty]
    rfl
  exact step_of_perform performed rfl

/-- An operation is about a pipeline that is there. -/
theorem Sound.there_of_about
    (sound : session.Sound)
    (about : operation.pipeline? session = some id) :
    id < session.world.pipelines.length := by
  cases operation with
  | add name _ | list name | showContext name | compile name _ _ _ | build name _ _ _ _ _
  | dryRun name _ _ _ | run name _ _ _ _ => exact sound.pipelineNames name id about
  | _ => cases about

theorem KeepsContexts.of_changes
    {kinds : List Kind}
    {before after : Session}
    (changes : Changes kinds before after)
    (harmless : ∀ kind ∈ kinds, kind = .note ∨ ∃ id, kind = .added id) :
    KeepsContexts before after := by
  have avoids (kind : Kind) (other : kind ≠ .note) (another : ∀ id, kind ≠ .added id) :
      kind ∉ kinds := by
    intro member
    rcases harmless kind member with same | ⟨id, same⟩
    · exact other same
    · exact another id same
  have samePipelines := changes.pipelines_length_eq (avoids _ (by simp) (by simp))
  refine ⟨changes.contexts_eq (avoids _ (by simp) (by simp)) (avoids _ (by simp) (by simp)),
    changes.defaultContext_eq (avoids _ (by simp) (by simp)), ?_,
    changes.called_nil (avoids _ (by simp) (by simp))⟩
  intro id
  rcases Nat.lt_or_ge id before.world.pipelines.length with there | outside
  · exact (changes.binding_eq (avoids _ (by simp) (by simp)) there).2
  · rw [pipeline_of_le outside, pipeline_of_le (samePipelines ▸ outside)]

/-- Adding and compiling have nothing to do with contexts. -/
theorem keepsContexts_of_contextFree
    (free : operation.contextFree)
    (session : Session)
    (script : List Outcome) :
    KeepsContexts (session.ready script) (session.step operation script).2 := by
  refine .of_changes (changes_step session operation script) ?_
  cases operation with
  | add pipeline filters =>
      intro kind member
      obtain ⟨id, -, same⟩ := Operation.mem_kinds_add.mp member
      exact .inr ⟨id, same⟩
  | list pipeline => simp [Operation.kinds]
  | compile pipeline format tool strict =>
      rw [Operation.kinds_of_isUse rfl]
      cases uses : Operation.use? (session.ready script) _ with
      | none => simp
      | some used =>
          simp only [Operation.use?, Option.bind_eq_bind, Option.bind_eq_some_iff, Option.pure_def,
            Option.some.injEq] at uses
          obtain ⟨id, -, format, -, tool, -, strict, -, rfl⟩ := uses
          simp [Use.kinds]
  | _ => cases free

/-- A use of an unbound pipeline binds it to what it obtains. -/
theorem Uses.firstUse
    {asked got : World}
    {outcome : Except Failure ContextId}
    (uses : session.Uses operation script asked outcome got)
    (about : operation.pipeline? session = some id)
    (there : id < session.world.pipelines.length) :
    session.FirstUse id operation script outcome := by
  have aboutReady : operation.pipeline? (session.ready script) = some id :=
    pipeline_ready.trans about
  have lazyUse := uses.lazyUse
  obtain ⟨use, used, asks⟩ := Operation.use_of_asks aboutReady uses.asks
  have unbound : ((session.ready script).world.pipeline id).context = none :=
    Operation.unbound_of_asks aboutReady uses.asks
  refine ⟨unbound, ?_, lazyUse.stored, ?_, lazyUse.answered⟩
  · intro usual known
    exact (lazyUse.known usual known).1
  · rw [step_eq, Operation.perform_of_use used]
    exact Use.binding_of_asks asks uses.obtained there

/-- A pipeline that is there is bound by a step exactly if the step obtains a context for it. -/
theorem binding_step
    (there : id < session.world.pipelines.length)
    (operation : Operation)
    (script : List Outcome) :
    ((session.step operation script).2.world.pipeline id).context =
      (session.world.pipeline id).context.or (session.obtainsFor id operation script) := by
  have changes := changes_step session operation script
  rw [obtainsFor]
  by_cases about : operation.pipeline? session = some id
  · rw [if_pos about]
    cases asks : operation.asksIn (session.ready script) with
    | none =>
        have unbound : .binding id ∉ operation.kinds (session.ready script) := by
          intro binds
          obtain ⟨-, asked, asksToo⟩ := Operation.asks_of_binding binds
          cases asks.symm.trans asksToo
        rw [(changes.binding_eq unbound there).2]
        exact (Option.or_none).symm
    | some asked =>
        rcases obtained : Context.obtainDefault.perform asked with ⟨outcome, got⟩
        have firstUse := Uses.firstUse ⟨asks, obtained⟩ about there
        rw [firstUse.binding, firstUse.unbound, Option.bind_some, obtained]
        rfl
  · have unbound : .binding id ∉ operation.kinds (session.ready script) := by
      intro binds
      exact about (pipeline_ready.symm.trans (Operation.asks_of_binding binds).1)
    rw [if_neg about, (changes.binding_eq unbound there).2]
    exact (Option.or_none).symm

/-- A step that does not ask for the default context does the same with any other. -/
theorem step_withDefault
    (sets : operation.sets session = none)
    (unasked : operation.asksIn (session.ready script) = none)
    (usual : Option ContextId) :
    (session.withDefault usual).step operation script =
      ((session.step operation script).1, (session.step operation script).2.withDefault usual) := by
  have found : (session.withDefault usual).ready script =
      (session.ready script).withDefault usual := rfl
  rw [step_eq, step_eq, found, indifferent_step sets unasked usual]
  rfl

/-- Where no context is constructed or asked for, none comes into existence. -/
theorem contexts_length_step
    (constructs : operation.constructs = false)
    (unasked : operation.asksIn (session.ready script) = none) :
    (session.step operation script).2.world.contexts.length = session.world.contexts.length := by
  obtain still | ⟨context, before, made, reason, -⟩ := contexts_step session operation script
  · exact still.length_eq
  · obtain ⟨constructsToo, -⟩ | ⟨-, asks⟩ := reason
    · cases constructs.symm.trans constructsToo
    · cases unasked.symm.trans asks

/-- A bound pipeline is used in its context. -/
theorem usedIn_of_bound (bound : (session.world.pipeline id).context = some context) :
    session.UsedIn id context := by
  have unasked (operation : Operation) (script : List Outcome)
      (about : operation.pipeline? session = some id) :
      operation.asksIn (session.ready script) = none := by
    cases asks : operation.asksIn (session.ready script) with
    | none => rfl
    | some asked =>
        have unbound : ((session.ready script).world.pipeline id).context = none :=
          Operation.unbound_of_asks (pipeline_ready.trans about) asks
        cases unbound.symm.trans bound
  refine ⟨bound, ?_, ?_, ?_⟩
  · intro operation script use uses
    have boundReady : ((session.ready script).world.pipeline id).context = some context := bound
    rw [Operation.perform_of_use (use_ready.trans uses)]
    exact Use.perform_of_bound boundReady use
  · intro operation script usual about
    have sets : operation.sets session = none := by
      cases operation <;> first | rfl | cases about
    exact step_withDefault sets (unasked operation script about) usual
  · intro operation script about
    have constructs : operation.constructs = false := by
      cases operation <;> first | rfl | cases about
    exact contexts_length_step constructs (unasked operation script about)

/-- A command that is not built because the check of its filters fails needs no context. -/
theorem keepsContexts_of_check_error
    {source : Source}
    {output : Argument}
    {format : Option Format}
    {tool : Value}
    {strict : Bool}
    {failure : Failure}
    (uses : operation.use? session = some (id, .build source output format tool strict))
    (fails : (Pipeline.orderReport id tool strict session.world).outcome = .error failure)
    (script : List Outcome) :
    (session.step operation script).1.outcome = .error failure ∧
      KeepsContexts (session.ready script) (session.step operation script).2 := by
  have usesReady : operation.use? (session.ready script) =
      some (id, .build source output format tool strict) := use_ready.trans uses
  have failsReady :
      (Pipeline.orderReport id tool strict (session.ready script).world).outcome =
        .error failure := fails
  refine ⟨?_, .of_changes (changes_step session operation script) ?_⟩
  · rw [step_eq, Operation.perform_of_use usesReady, Use.perform, perform_bind, perform_act,
      Pipeline.perform_build]
    dsimp only
    rw [Pipeline.orderReport] at failsReady
    rw [failsReady]
  · rw [Operation.kinds_of_use usesReady, Use.kinds, Use.asksIn, Pipeline.buildAsksIn, failsReady]
    simp [Kind.ifAsks]

/-! ## Runs -/

/-- By induction on the run: a binding stays, and the first context that is obtained is one. -/
theorem binding_run
    (there : id < session.world.pipelines.length)
    (operations : List (Operation × List Outcome)) :
    ((session.run operations).2.world.pipeline id).context =
      (session.world.pipeline id).context.or (session.obtainedFor id operations) := by
  induction operations generalizing session with
  | nil => exact (Option.or_none).symm
  | cons entry rest inductionHypothesis =>
      obtain ⟨operation, script⟩ := entry
      have thereToo := (changes_step session operation script).pipeline_there there
      rw [run_cons, inductionHypothesis thereToo, binding_step there, obtainedFor, Option.or_assoc]

/-- A context stays what it was made as. -/
theorem original_run
    (there : context < session.world.contexts.length)
    (operations : List (Operation × List Outcome)) :
    ((session.run operations).2.world.context context).original =
      (session.world.context context).original := by
  refine (run_preserves (fun other => context < other.world.contexts.length ∧
    (other.world.context context).original = (session.world.context context).original) ?_ operations
      session ⟨there, rfl⟩).2
  rintro other operation script ⟨there, same⟩
  obtain ⟨thereToo, sameToo⟩ := (changes_step other operation script).original_eq there
  exact ⟨thereToo, sameToo.trans same⟩

/-! ## The main result -/

/-- Over every run of operations, with any outcomes of calls: a pipeline is made with the context
that is named, or with none.  It has this context for good, or else the first that is obtained for
it, which is the default context at that time; where none is obtained it stays without one.  Once it
has a context, which stays what it is, the pipeline is used in this context alone, so that commands
name its encoding tool, and neither reads nor makes nor replaces a default context.  Filters are
added, listed and compiled without any context, and so is a command whose filters fail their
check. -/
theorem pipeline_contexts_over_runs (operations : List (Operation × List Outcome)) :
    let session := reached operations
    (∀ name request found script,
      lookedUpOption session.contexts request = .ok found ->
      session.step (.newPipeline name request) script =
        (⟨.ok (.filters []), []⟩, (session.ready script).withPipeline name found)) ∧
    (∀ id later,
      id < session.world.pipelines.length ->
      ((session.run later).2.world.pipeline id).context =
        (session.world.pipeline id).context.or (session.obtainedFor id later)) ∧
    (∀ id operation script asked outcome got,
      operation.pipeline? session = some id ->
      session.Uses operation script asked outcome got ->
      session.FirstUse id operation script outcome) ∧
    (∀ id context later,
      (session.world.pipeline id).context = some context ->
      (session.run later).2.UsedIn id context ∧
        ((session.run later).2.world.context context).original =
          (session.world.context context).original) ∧
    (∀ world context id source output format tool strict arguments,
      ((Pipeline.buildIn context id source output format tool strict).perform world).1 =
        .ok arguments ->
      arguments.head? = some (world.context context).encoder) ∧
    (∀ operation script,
      operation.contextFree ->
      KeepsContexts (session.ready script) (session.step operation script).2) ∧
    (∀ operation script id source output format tool strict failure,
      operation.use? session = some (id, .build source output format tool strict) ->
      (Pipeline.orderReport id tool strict session.world).outcome = .error failure ->
      (session.step operation script).1.outcome = .error failure ∧
        KeepsContexts (session.ready script) (session.step operation script).2) := by
  intro session
  have sound : session.Sound := sound_reached operations
  refine ⟨?_, ?_, ?_, ?_, ?_, ?_, ?_⟩
  · intro name request found script looked
    exact step_newPipeline looked script
  · intro id later there
    exact binding_run there later
  · intro id operation script asked outcome got about uses
    exact uses.firstUse about (sound.there_of_about about)
  · intro id context later bound
    have boundLater : ((session.run later).2.world.pipeline id).context = some context := by
      rw [binding_run (lt_of_bound bound) later, bound]
      rfl
    exact ⟨usedIn_of_bound boundLater, original_run (sound.bindings id context bound) later⟩
  · intro world context id source output format tool strict arguments builds
    exact Pipeline.encoder_of_buildIn source output format tool strict builds
  · intro operation script free
    exact keepsContexts_of_contextFree free session script
  · intro operation script id source output format tool strict failure uses fails
    exact keepsContexts_of_check_error uses fails script

/-- A filter that works from a late release on is added to a pipeline without a context. -/
def demandingPipeline : List (Operation × List Outcome) :=
  [(.newFilter "new" (.fixed { name := .plain (.text "new") }
      { minimum := some (.plain (.text "5.0")) }), []),
    (.newPipeline "p" none, []), (.add "p" ["new"], [])]

/-- The session that this reaches. -/
def afterDemandingPipeline : Session where
  world := {
    filters := [({ name := .text "new" } : Literal).toFilter { minimum := .text "5.0" }]
    pipelines := [{ filters := [0] }] }
  filters := [("new", 0)]
  pipelines := [("p", 0)]

theorem reached_demandingPipeline : reached demandingPipeline = afterDemandingPipeline := rfl

/-- A command for an early release. -/
def strictBuild : Operation :=
  .build "p" (.opened (.plain (.text "in.mp4"))) (.plain (.text "out.mp4")) none
    (some (.plain (.text "4.4"))) (some (.plain (.bool true)))

/-- The strict check fails and leaves the pipeline without a context, as compiling does.  It gets
the default context once that is needed, and keeps it. -/
theorem pipeline_contexts_of_demandingPipeline :
    let session := reached demandingPipeline
    let bound := (session.step (.showContext "p") []).2
    ((session.step strictBuild []).1.outcome = .error (.toolTooOld "new" "5.0" "4.4") ∧
      KeepsContexts (session.ready []) (session.step strictBuild []).2) ∧
    KeepsContexts (session.ready []) (session.step (.compile "p" none none none) []).2 ∧
    session.FirstUse 0 (.showContext "p") [] (.ok 0) ∧
    ∀ later, (bound.run later).2.UsedIn 0 0 ∧
      ((bound.run later).2.world.context 0).original = Context.usual := by
  have checked : (Pipeline.orderReport 0 (.text "4.4") true
      afterDemandingPipeline.world).outcome = .error (.toolTooOld "new" "5.0" "4.4") := by
    with_unfolding_all rfl
  have uses : strictBuild.use? afterDemandingPipeline =
      some (0, .build (.single ⟨"in.mp4"⟩) (.text "out.mp4") none (.text "4.4") true) := rfl
  have yields : (reached demandingPipeline).Yields (.showContext "p") [] 0 := by
    rw [reached_demandingPipeline]
    exact ⟨_, _, rfl, rfl⟩
  have about : (Operation.showContext "p").pipeline? (reached demandingPipeline) = some 0 := by
    rw [reached_demandingPipeline]
    rfl
  have boundOnce : reached (demandingPipeline ++ [(.showContext "p", [])]) =
      ((reached demandingPipeline).step (.showContext "p") []).2 := reached_concat _ _ _
  have settled : (((reached demandingPipeline).step (.showContext "p") []).2.world.pipeline
      0).context = some 0 := by
    rw [reached_demandingPipeline]
    rfl
  obtain ⟨-, -, first, -, -, free, check⟩ := pipeline_contexts_over_runs demandingPipeline
  obtain ⟨-, -, -, keeps, -⟩ :=
    pipeline_contexts_over_runs (demandingPipeline ++ [(.showContext "p", [])])
  rw [boundOnce] at keeps
  refine ⟨?_, ?_, ?_, ?_⟩
  · rw [reached_demandingPipeline] at check ⊢
    exact check strictBuild [] 0 _ _ _ _ _ _ uses checked
  · exact free (.compile "p" none none none) [] rfl
  · obtain ⟨asked, got, obtains⟩ := yields
    exact first 0 _ _ asked _ got about obtains
  · intro later
    obtain ⟨used, same⟩ := keeps 0 0 later settled
    refine ⟨used, same.trans ?_⟩
    rw [reached_demandingPipeline]
    rfl

end Session
end Filtergraph
