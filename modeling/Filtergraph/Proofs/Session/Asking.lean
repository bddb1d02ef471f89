import Filtergraph.Proofs.Session.Lookups

/-!
# Asking for the default context

An operation asks for the default context at most once, and nothing but notes comes before.  Where
it asks is told by what it looks up first, by the check of the filters for a command that is built,
and by whether the pipeline is bound.
-/

namespace Filtergraph

/-- The world in which a pipeline asks for the default context, if it does. -/
def Pipeline.asksIn (id : PipelineId) (world : World) : Option World :=
  match (world.pipeline id).context with
  | some _ => none
  | none => some world

/-- The world in which a command that is built asks for the default context, if it does. -/
def Pipeline.buildAsksIn (id : PipelineId) (tool : Value) (strict : Bool) (world : World) :
    Option World :=
  match (orderReport id tool strict world).outcome with
  | .ok _ => asksIn id (notedWorld id tool strict world)
  | .error _ => none

namespace SessionAction

open World

variable {action : SessionAction α}
variable {next : α -> SessionAction β}
variable {session : Session}
variable {asked : World}

/-- An action leaves the default context and all contexts as they are in a session. -/
structure Keeps (action : SessionAction α) (session : Session) : Prop where
  continues : Continues session.world (action.perform session).2.world
  defaultContext : (action.perform session).2.world.defaultContext = session.world.defaultContext

/-- What is inert keeps the default context. -/
theorem Inert.keeps (inert : Inert action session) : Keeps action session :=
  ⟨inert.continues, inert.indifferent.defaultContext_eq⟩

/-- What keeps the default context may follow on what keeps it. -/
theorem Keeps.bind
    (first : Keeps action session)
    (rest : ∀ a after, action.perform session = (.ok a, after) -> Keeps (next a) after) :
    Keeps (action >>= next) session := by
  obtain ⟨continues, same⟩ := first
  refine ⟨?_, ?_⟩
  all_goals
    rw [perform_bind]
    rcases performed : action.perform session with ⟨failure | a, after⟩
    all_goals rw [performed] at continues same
  · exact continues
  · exact continues.trans (rest a after performed).continues
  · exact same
  · exact (rest a after performed).defaultContext.trans same

/-- An action asks for the default context in a world that differs from that of the session in
notes only, and goes on with the context that it gets.  It then keeps that context. -/
structure AsksAt (action : SessionAction α) (session : Session) (asked : World) : Prop where
  alike : Alike session.world asked
  calls : Called session.world asked []
  goesOn : ∃ following : ContextId -> SessionAction α,
    action.perform session =
      (act Context.obtainDefault >>= following).perform { session with world := asked } ∧
    ∀ id made, Context.obtainDefault.perform asked = (.ok id, made) ->
      Keeps (following id) { session with world := made }

namespace AsksAt

/-- What follows keeps the context that has been obtained. -/
protected theorem bind
    (first : AsksAt action session asked)
    (rest : ∀ a after, action.perform session = (.ok a, after) -> Keeps (next a) after) :
    AsksAt (action >>= next) session asked := by
  obtain ⟨alike, calls, following, same, keeps⟩ := first
  refine ⟨alike, calls, fun id => following id >>= next, ?_, ?_⟩
  · rw [← bind_assoc, perform_bind, perform_bind _ next, same]
  · intro id made obtained
    refine (keeps id made obtained).bind ?_
    intro a after performed
    apply rest a after
    rw [same, perform_bind, perform_act, obtained]
    exact performed

/-- Nothing but notes comes before. -/
protected theorem after
    {a : α}
    {noted : World}
    (performed : action.perform session = (.ok a, { session with world := noted }))
    (alike : Alike session.world noted)
    (calls : Called session.world noted [])
    (rest : AsksAt (next a) { session with world := noted } asked) :
    AsksAt (action >>= next) session asked := by
  obtain ⟨alikeToo, callsToo, following, same, keeps⟩ := rest
  refine ⟨?_, calls.trans callsToo, following, ?_, keeps⟩
  · rw [alikeToo, alike]
    rfl
  · rw [perform_bind, performed]
    exact same

/-- Where no default context can be obtained, this is all that becomes of the action. -/
theorem of_error
    {failure : Failure}
    {tried : World}
    (asks : AsksAt action session asked)
    (fails : Context.obtainDefault.perform asked = (.error failure, tried)) :
    action.perform session = (.error failure, { session with world := tried }) := by
  obtain ⟨-, -, following, same, -⟩ := asks
  rw [same, perform_bind, perform_act, fails]

/-- Where a default context is obtained, it is still the default context afterwards. -/
theorem of_ok
    {id : ContextId}
    {made : World}
    (asks : AsksAt action session asked)
    (obtained : Context.obtainDefault.perform asked = (.ok id, made)) :
    Continues made (action.perform session).2.world ∧
      (action.perform session).2.world.defaultContext = some id := by
  obtain ⟨-, -, following, same, keeps⟩ := asks
  obtain ⟨continues, kept⟩ := keeps id made obtained
  have performed : action.perform session =
      (following id).perform { session with world := made } := by
    rw [same, perform_bind, perform_act, obtained]
  rw [performed]
  exact ⟨continues, kept.trans (Context.defaultContext_of_obtainDefault obtained)⟩

end AsksAt

/-- An action asks for the default context in a world, or does not ask for it and is inert. -/
def Asks (action : SessionAction α) (session : Session) : Option World -> Prop
  | none => Inert action session
  | some asked => AsksAt action session asked

namespace Asks

/-- What is inert may follow on an action that asks or does not ask. -/
protected theorem bind
    {place : Option World}
    (first : Asks action session place)
    (rest : ∀ a after, Inert (next a) after) :
    Asks (action >>= next) session place := by
  cases place with
  | none => exact Inert.bind first fun a after _ => rest a after
  | some asked => exact AsksAt.bind first fun a after _ => (rest a after).keeps

protected theorem map
    {place : Option World}
    (first : Asks action session place)
    (f : α -> β) :
    Asks (action >>= fun a => pure (f a)) session place :=
  first.bind fun _ _ => .pure _ _

/-- What is looked up first decides where an action asks. -/
theorem after_lookup
    {outcome : Except Failure α}
    {place : α -> Option World}
    (reads : Reads action session outcome)
    (rest : ∀ a, Asks (next a) session (place a)) :
    Asks (action >>= next) session (outcome.toOption.bind place) := by
  cases outcome with
  | error failure =>
      refine reads.bind_inert_of_ok ?_
      intro a succeeds
      cases succeeds
  | ok a =>
      change Asks _ session (place a)
      have following := rest a
      cases asking : place a with
      | none =>
          rw [asking] at following
          refine reads.bind_inert_of_ok ?_
          intro other succeeds
          obtain rfl := Except.ok.inj succeeds
          exact following
      | some asked =>
          rw [asking] at following
          exact AsksAt.after reads.perform_eq (.refl _) (.refl _) following

/-- An action may read the session first, if it does not read the default context. -/
protected theorem get_bind
    {next : Session -> SessionAction α}
    {place : Option World}
    (asks : Asks (next session) session place)
    (same : ∀ usual, next (session.withDefault usual) = next session) :
    Asks (get >>= next) session place := by
  cases place with
  | none => exact Inert.get_bind asks same
  | some asked => exact ⟨asks.alike, asks.calls, asks.goesOn⟩

/-- An action that asks behind a report does so in the world with its notes, unless it fails. -/
theorem after_report
    {report : Report α}
    {logger : String}
    {place : Option World}
    (fails : ∀ failure, report.outcome = .error failure -> place = none)
    (rest : ∀ a, report.outcome = .ok a ->
      Asks (next a) { session with world := session.world.afterNotes logger report.notes } place) :
    Asks (act (.ofReport logger report) >>= next) session place := by
  have noted : (act (.ofReport logger report)).perform session =
      (report.outcome,
        { session with world := session.world.afterNotes logger report.notes }) := rfl
  cases place with
  | none =>
      refine (inert_ofReport logger report session).bind ?_
      intro a after performed
      obtain ⟨succeeds, rfl⟩ := Prod.mk.inj (noted.symm.trans performed)
      exact rest a succeeds
  | some asked =>
      cases outcome : report.outcome with
      | error failure => cases fails failure outcome
      | ok a =>
          rw [outcome] at noted
          exact .after noted rfl (called_afterNotes _ _ _) (rest a outcome)

end Asks

/-- Obtaining the default context asks for it where it is. -/
theorem asks_obtainDefault (session : Session) :
    Asks (act Context.obtainDefault) session (some session.world) := by
  refine ⟨.refl _, .refl _, pure, ?_, ?_⟩
  · rw [bind_pure]
  · intro id made _
    exact (Inert.pure id _).keeps

theorem inert_bindPipeline (id : PipelineId) (context : ContextId) (session : Session) :
    Inert (act (modify fun world => world.bindPipeline id context)) session :=
  inert_change session ⟨rfl, [], .of_eq rfl rfl⟩ fun _ => rfl

section Pipelines

variable {id : PipelineId}
variable {context : ContextId}
variable (source : Source)
variable (output : Argument)
variable (format : Option Format)
variable (tool : Value)
variable (strict : Bool)

/-- A bound pipeline gets its context without asking. -/
theorem reads_obtainContext (bound : (session.world.pipeline id).context = some context) :
    Reads (act (Pipeline.obtainContext id)) session (.ok context) := by
  intro usual
  have settled : Pipeline.Settled (session.withDefault usual).world id context := .bound bound
  rw [perform_act, settled.obtain]

/-- An unbound pipeline asks for the default context, and is bound to it after that. -/
theorem asks_obtainContext (id : PipelineId) (session : Session) :
    Asks (act (Pipeline.obtainContext id)) session (Pipeline.asksIn id session.world) := by
  rw [Pipeline.asksIn]
  cases bound : (session.world.pipeline id).context with
  | some context => exact (reads_obtainContext bound).inert
  | none =>
      refine ⟨.refl _, .refl _, fun context =>
        act (modify fun world => world.bindPipeline id context) >>= fun _ => pure context, ?_, ?_⟩
      · rw [perform_bind, perform_act, perform_act, Pipeline.perform_obtainContext, bound]
        dsimp only
        rcases Context.obtainDefault.perform session.world with ⟨failure | context, made⟩ <;> rfl
      · intro context made _
        exact ((inert_bindPipeline id context _).map fun _ => context).keeps

/-- A command is built in the context of the pipeline, which is asked for after the check. -/
theorem asks_build (id : PipelineId) (session : Session) :
    Asks (act (Pipeline.build id source output format tool strict)) session
      (Pipeline.buildAsksIn id tool strict session.world) := by
  rw [Pipeline.build, act_get]
  refine .get_bind ?_ fun _ => rfl
  rw [act_bind]
  refine .after_report ?_ ?_
  · intro failure fails
    change (Pipeline.orderReport id tool strict session.world).outcome = .error failure at fails
    rw [Pipeline.buildAsksIn, fails]
  · intro inOrder passes
    change (Pipeline.orderReport id tool strict session.world).outcome = .ok inOrder at passes
    rw [Pipeline.buildAsksIn, passes, act_bind]
    refine (asks_obtainContext id _).bind ?_
    intro context after
    exact .get_bind (reads_ofExcept _ after).inert fun _ => rfl

/-- A command that is shown is built, and then joined. -/
theorem asks_dryRun (id : PipelineId) (session : Session) :
    Asks (act (Pipeline.dryRun id source output format)) session
      (Pipeline.buildAsksIn id .null false session.world) := by
  rw [Pipeline.dryRun, act_bind]
  refine (asks_build source output format .null false id session).bind ?_
  intro arguments after
  exact (reads_ofExcept _ after).inert

/-- No command of a bound pipeline asks for the default context. -/
theorem buildAsksIn_of_bound (bound : (session.world.pipeline id).context = some context) :
    Pipeline.buildAsksIn id tool strict session.world = none := by
  have noted : ((Pipeline.notedWorld id tool strict session.world).pipeline id).context =
      some context := bound
  rw [Pipeline.buildAsksIn, Pipeline.asksIn, noted]
  cases (Pipeline.orderReport id tool strict session.world).outcome <;> rfl

/-! ## Runs -/

/-- Asking for a release binds no pipeline. -/
theorem sameBindings_of_askRelease
    {release : Option String}
    {after : Session}
    (performed : (act (Context.askRelease context)).perform session = (.ok release, after)) :
    SameBindings session.world after.world := by
  have same := Context.sameBindings_askRelease context session.world
  rwa [perform_of_act performed] at same

theorem inert_execute (context : ContextId) (arguments : List Argument) (session : Session) :
    Inert (act (Pipeline.execute context arguments)) session := by
  rw [Pipeline.execute, act_get]
  refine .get_bind ?_ fun _ => rfl
  rw [act_bind]
  refine (inert_runCommand _ _ session).bind ?_
  intro result after _
  cases result.succeeded with
  | false => exact .throw _ _
  | true =>
      change Inert (act (get >>= fun world => Action.tell (world.context context).logger .info
        "FFmpeg completed successfully" >>= fun _ => pure result)) after
      rw [act_get]
      refine .get_bind ?_ fun _ => rfl
      rw [act_bind]
      refine (inert_tell _ _ _ after).bind ?_
      intro _ last _
      exact .pure _ _

/-- Building for a pipeline that has its context leaves notes and nothing else. -/
theorem keeps_build (settled : Pipeline.Settled session.world id context) :
    Keeps (act (Pipeline.build id source output format tool strict)) session := by
  obtain ⟨logger, notes, left⟩ := settled.build_leaves_notes source output format tool strict
  refine ⟨?_, ?_⟩
  all_goals rw [perform_act]
  · exact left ▸ continues_afterNotes _ _ _
  · exact (congrArg World.defaultContext left).trans rfl

/-- Where a pipeline has got its context, the rest of a run asks for no other one. -/
theorem keeps_rest_of_run (settled : Pipeline.Settled session.world id context) :
    Keeps (do
      let release ← act (Context.askRelease context)
      let arguments ← act (Pipeline.build id source output format (.ofOption .text release) strict)
      act (Pipeline.execute context arguments)) session := by
  -- a pipeline that is not there stays unbound, so that building may ask for the default context
  -- again; it gets the same one, but is not inert
  refine (inert_askRelease context session).keeps.bind ?_
  intro release after performed
  have same := sameBindings_of_askRelease performed
  refine (keeps_build source output format _ strict (settled.of_sameBindings same)).bind ?_
  intro arguments last _
  exact (inert_execute context arguments last).keeps

/-- A run of a bound pipeline asks for no default context. -/
theorem inert_run (bound : (session.world.pipeline id).context = some context) :
    Inert (act (Pipeline.run id source output format strict)) session := by
  rw [Pipeline.run_eq, act_bind]
  refine (reads_obtainContext bound).bind_inert ?_
  intro obtained
  rw [act_bind]
  refine (inert_askRelease obtained session).bind ?_
  intro release after performed
  have boundToo : (after.world.pipeline id).context = some context := by
    rw [World.pipeline, (sameBindings_of_askRelease performed).pipelines]
    exact bound
  have building := asks_build source output format (.ofOption .text release) strict id after
  rw [buildAsksIn_of_bound _ strict boundToo] at building
  rw [act_bind]
  refine Inert.bind building ?_
  intro arguments last _
  exact inert_execute obtained arguments last

/-- A run of an unbound pipeline asks for it once, before everything else. -/
theorem asks_run (id : PipelineId) (session : Session) :
    Asks (act (Pipeline.run id source output format strict)) session
      (Pipeline.asksIn id session.world) := by
  have obtaining := asks_obtainContext id session
  rw [Pipeline.asksIn] at obtaining ⊢
  cases bound : (session.world.pipeline id).context with
  | some context => exact inert_run source output format strict bound
  | none =>
      rw [bound] at obtaining
      rw [Pipeline.run_eq, act_bind]
      refine AsksAt.bind obtaining ?_
      intro context after performed
      have settled := Pipeline.settled_of_obtainContext (perform_of_act performed)
      have rest := keeps_rest_of_run source output format strict settled
      simp only [act_bind]
      exact rest

end Pipelines

end SessionAction
end Filtergraph
