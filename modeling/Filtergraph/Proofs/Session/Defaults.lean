import Filtergraph.Proofs.Session.Steps
import Mathlib.Data.List.Induction

/-!
# The default context over runs

The default context is made when it is first asked for, by exactly two calls that succeed, and is
shared by all that ask for it until another one is set.  An attempt that fails makes nothing, and is
made again by the next operation that asks.
-/

namespace Filtergraph
namespace Session

open World SessionAction

/-- The session as an operation with a script finds it. -/
def ready (session : Session) (script : List Outcome) : Session :=
  { session with world := { session.world with script, trace := [] } }

/-- In a step the default context is asked for in a world, with an outcome and the world that this
leaves. -/
structure Uses
    (session : Session)
    (operation : Operation)
    (script : List Outcome)
    (asked : World)
    (outcome : Except Failure ContextId)
    (got : World) : Prop where
  asks : operation.asksIn (session.ready script) = some asked
  obtained : Context.obtainDefault.perform asked = (outcome, got)

/-- In a step the default context is asked for, and this is the one. -/
def Yields
    (session : Session)
    (operation : Operation)
    (script : List Outcome)
    (id : ContextId) : Prop :=
  ∃ asked got, session.Uses operation script asked (.ok id) got

/-- The default context that there is counts.  Where there is none, an attempt to make one is the
first that is called in the step, and only one that succeeds leaves a default context. -/
structure LazyUse
    (session : Session)
    (operation : Operation)
    (script : List Outcome)
    (asked : World)
    (outcome : Except Failure ContextId)
    (got : World) : Prop where
  /-- Nothing is called before. -/
  before : Called (session.ready script).world asked []
  /-- The operation asks there, and goes on with the context that it gets. -/
  goesOn : ∃ following : ContextId -> SessionAction Reply,
    operation.perform.perform (session.ready script) =
      (act Context.obtainDefault >>= following).perform
        { session.ready script with world := asked }
  /-- Where there is a default context, nothing happens. -/
  known : ∀ id, session.world.defaultContext = some id -> outcome = .ok id ∧ got = asked
  /-- Otherwise a context that is obtained comes into existence, as the last of all. -/
  made : session.world.defaultContext = none -> ∀ id, outcome = .ok id ->
    id = session.world.contexts.length ∧ Makes asked got Context.usual
  /-- A failure is that of such an attempt. -/
  notMade : ∀ failure, outcome = .error failure ->
    session.world.defaultContext = none ∧
      FailsToMake asked got Context.defaultEncoder Context.defaultProber
  /-- The step goes on from there without making a context. -/
  afterwards : Continues got (session.step operation script).2.world
  /-- What was obtained is the default context, and after a failure there is none. -/
  stored : (session.step operation script).2.world.defaultContext = outcome.toOption
  /-- A failure is that of the operation. -/
  answered : ∀ failure, outcome = .error failure ->
    (session.step operation script).1.outcome = .error failure

/-- No operation of a run sets the default context. -/
def Undisturbed (session : Session) : List (Operation × List Outcome) -> Prop
  | [] => True
  | (operation, script) :: rest =>
    operation.sets session = none ∧ (session.step operation script).2.Undisturbed rest

/-- No operation of a run sets the default context or gets it. -/
def Idle (session : Session) : List (Operation × List Outcome) -> Prop
  | [] => True
  | (operation, script) :: rest =>
    operation.sets session = none ∧ (∀ id, ¬ session.Yields operation script id) ∧
      (session.step operation script).2.Idle rest

/-- In a step a context comes into existence, because the operation constructs one, or because it
asks for the default context and there is none.  Up to then nothing is called but its two tools. -/
def MakesContext
    (session : Session)
    (operation : Operation)
    (script : List Outcome)
    (context : Context) : Prop :=
  ∃ before made,
    (operation.constructs ∧ before = (session.ready script).world ∨
      session.world.defaultContext = none ∧
        operation.asksIn (session.ready script) = some before) ∧
    Called (session.ready script).world before [] ∧
    Makes before made context ∧
    Continues made (session.step operation script).2.world

/-- A context came into existence in a step of a run, and has been the same since then. -/
def CameAbout (operations : List (Operation × List Outcome)) (id : ContextId) : Prop :=
  ∃ earlier operation script later context,
    operations = earlier ++ (operation, script) :: later ∧
    id = (reached earlier).world.contexts.length ∧
    (reached earlier).MakesContext operation script context ∧
    ((reached operations).world.context id).original = context.original

variable {session : Session}
variable {operation : Operation}
variable {script : List Outcome}
variable {id : ContextId}

/-! ## Steps -/

theorem step_eq :
    session.step operation script =
      (⟨(operation.perform.perform (session.ready script)).1,
        (operation.perform.perform (session.ready script)).2.world.trace⟩,
        (operation.perform.perform (session.ready script)).2) := rfl

/-- A step answers what its operation comes to, and what was done for it. -/
theorem step_of_perform
    {outcome : Except Failure Reply}
    {events : List Event}
    {after : Session}
    (performed : operation.perform.perform (session.ready script) = (outcome, after))
    (traced : after.world.trace = events) :
    session.step operation script = (⟨outcome, events⟩, after) := by
  rw [step_eq, performed, traced]

theorem sets_ready : operation.sets (session.ready script) = operation.sets session := by
  cases operation <;> rfl

theorem sets_of_asksIn
    {asked : World}
    (asks : operation.asksIn session = some asked) :
    operation.sets session = none := by
  cases operation <;> first | rfl | cases asks

theorem constructs_of_asksIn
    {asked : World}
    (asks : operation.asksIn session = some asked) :
    operation.constructs = false := by
  cases operation <;> first | rfl | cases asks

theorem asks_ready
    {asked : World}
    (asks : operation.asksIn (session.ready script) = some asked) :
    AsksAt operation.perform (session.ready script) asked := by
  have placed := Operation.asks_perform (sets_of_asksIn asks) (constructs_of_asksIn asks)
  rwa [asks] at placed

/-- An operation that neither sets the default context nor asks for it does the same with any
default context. -/
theorem indifferent_step
    (sets : operation.sets session = none)
    (unasked : operation.asksIn (session.ready script) = none) :
    Indifferent operation.perform (session.ready script) := by
  cases constructs : operation.constructs with
  | true => exact (operation.mayMake_perform constructs _).indifferent
  | false =>
      have setsToo : operation.sets (session.ready script) = none := sets_ready.trans sets
      have asks := Operation.asks_perform setsToo constructs
      rw [unasked] at asks
      exact asks.indifferent

/-- An operation that asks gets the default context that is there, or the first one that is made. -/
theorem Uses.lazyUse
    {asked got : World}
    {outcome : Except Failure ContextId}
    (uses : session.Uses operation script asked outcome got) :
    session.LazyUse operation script asked outcome got := by
  obtain ⟨asks, obtained⟩ := uses
  have asksAt := asks_ready asks
  obtain ⟨following, goesOn, -⟩ := asksAt.goesOn
  have sameDefault : asked.defaultContext = session.world.defaultContext :=
    asksAt.alike.sameBindings.defaultContext
  have sameContexts : asked.contexts = session.world.contexts := by
    rw [asksAt.alike]
    rfl
  cases known : session.world.defaultContext with
  | some id =>
      have found : Context.obtainDefault.perform asked = (.ok id, asked) := by
        rw [Context.perform_obtainDefault, sameDefault, known]
      obtain ⟨rfl, rfl⟩ := Prod.mk.inj (obtained.symm.trans found)
      obtain ⟨continues, stored⟩ := asksAt.of_ok found
      refine ⟨asksAt.calls, ⟨following, goesOn⟩, ?_, ?_, by simp, continues, stored, by simp⟩
      · intro other same
        rw [known] at same
        exact ⟨congrArg Except.ok (Option.some.inj same), rfl⟩
      · simp [known]
  | none =>
      obtain ⟨made, performed, makes, -⟩ | ⟨failure, tried, performed, fails, absent⟩ :=
        Context.obtainDefault_cases (sameDefault.trans known)
      · obtain ⟨rfl, rfl⟩ := Prod.mk.inj (obtained.symm.trans performed)
        obtain ⟨continues, stored⟩ := asksAt.of_ok performed
        refine ⟨asksAt.calls, ⟨following, goesOn⟩, by simp [known], ?_, by simp, continues, stored,
          by simp⟩
        intro _ id same
        obtain rfl := Except.ok.inj same
        exact ⟨congrArg List.length sameContexts, makes⟩
      · obtain ⟨rfl, rfl⟩ := Prod.mk.inj (obtained.symm.trans performed)
        have failed := asksAt.of_error performed
        refine ⟨asksAt.calls, ⟨following, goesOn⟩, by simp [known], by simp, ?_, ?_, ?_, ?_⟩
        · intro _ _
          exact ⟨known, fails⟩
        · rw [step_eq, failed]
          exact .refl got
        · rw [step_eq, failed]
          exact absent
        · intro other same
          rw [step_eq, failed]
          exact congrArg Except.error (Except.error.inj same)

/-- Where there is no default context, the encoding tool is called for one. -/
theorem LazyUse.attempts
    {asked got : World}
    {outcome : Except Failure ContextId}
    (lazyUse : session.LazyUse operation script asked outcome got)
    (absent : session.world.defaultContext = none) :
    ∃ calls, Called asked got (releaseCall Context.defaultEncoder :: calls) := by
  cases outcome with
  | error failure =>
      obtain ⟨-, fails⟩ := lazyUse.notMade failure rfl
      obtain ⟨-, called⟩ | ⟨-, -, called⟩ := fails.calls
      · exact ⟨[], called⟩
      · exact ⟨[_], called⟩
  | ok id =>
      obtain ⟨-, makes⟩ := lazyUse.made absent id rfl
      exact ⟨[_], makes.calls⟩

/-! ## The default context of a step -/

theorem defaultContext_of_indifferent
    (indifferent : Indifferent operation.perform (session.ready script)) :
    (session.step operation script).2.world.defaultContext = session.world.defaultContext :=
  indifferent.defaultContext_eq

/-- A default context stays until another one is set. -/
theorem defaultContext_step_of_known
    (sets : operation.sets session = none)
    (known : session.world.defaultContext = some id) :
    (session.step operation script).2.world.defaultContext = some id := by
  cases asks : operation.asksIn (session.ready script) with
  | none => rw [defaultContext_of_indifferent (indifferent_step sets asks), known]
  | some asked =>
      have lazyUse := Uses.lazyUse ⟨asks, rfl⟩
      rw [lazyUse.stored, (lazyUse.known id known).1]
      rfl

/-- Where there is no default context there is none until it is set or obtained. -/
theorem defaultContext_step_of_absent
    (sets : operation.sets session = none)
    (unobtained : ∀ id, ¬ session.Yields operation script id)
    (absent : session.world.defaultContext = none) :
    (session.step operation script).2.world.defaultContext = none := by
  cases asks : operation.asksIn (session.ready script) with
  | none => rw [defaultContext_of_indifferent (indifferent_step sets asks), absent]
  | some asked =>
      rcases obtained : Context.obtainDefault.perform asked with ⟨failure | id, got⟩
      · exact (Uses.lazyUse ⟨asks, obtained⟩).stored
      · exact absurd ⟨asked, got, asks, obtained⟩ (unobtained id)

/-- Setting the default context is all that such a step does. -/
theorem step_of_sets
    {usual : Option ContextId}
    (sets : operation.sets session = some usual) :
    session.step operation script =
      (⟨.ok .nothing, []⟩, (session.ready script).withDefault usual) := by
  rw [step_eq, Operation.perform_of_sets (sets_ready.trans sets)]
  rfl

/-! ## The default context of a run -/

/-- A default context that is there stays until another one is set. -/
theorem defaultContext_of_undisturbed
    {rest : List (Operation × List Outcome)}
    (undisturbed : session.Undisturbed rest)
    (known : session.world.defaultContext = some id) :
    (session.run rest).2.world.defaultContext = some id := by
  induction rest generalizing session with
  | nil => exact known
  | cons entry rest inductionHypothesis =>
      obtain ⟨operation, script⟩ := entry
      rw [run_cons]
      exact inductionHypothesis undisturbed.2 (defaultContext_step_of_known undisturbed.1 known)

/-- Without anything that asks for it there is none. -/
theorem defaultContext_of_idle
    {rest : List (Operation × List Outcome)}
    (idle : session.Idle rest)
    (absent : session.world.defaultContext = none) :
    (session.run rest).2.world.defaultContext = none := by
  induction rest generalizing session with
  | nil => exact absent
  | cons entry rest inductionHypothesis =>
      obtain ⟨operation, script⟩ := entry
      obtain ⟨sets, unobtained, later⟩ := idle
      rw [run_cons]
      exact inductionHypothesis later (defaultContext_step_of_absent sets unobtained absent)

/-! ## The contexts of a run -/

/-- A step makes no context or one. -/
theorem contexts_step (session : Session) (operation : Operation) (script : List Outcome) :
    Continues (session.ready script).world (session.step operation script).2.world ∨
      ∃ context, session.MakesContext operation script context := by
  cases sets : operation.sets session with
  | some usual =>
      rw [step_of_sets sets]
      exact .inl ⟨rfl, [], .of_eq rfl rfl⟩
  | none =>
    cases constructs : operation.constructs with
    | true =>
        obtain still | ⟨made, context, makes, goesOn⟩ :=
          (operation.mayMake_perform constructs (session.ready script)).contexts
        · exact .inl still
        · exact .inr ⟨context, _, made, .inl ⟨constructs, rfl⟩, .refl _, makes, goesOn⟩
    | false =>
      have setsToo : operation.sets (session.ready script) = none := sets_ready.trans sets
      have asks := Operation.asks_perform setsToo constructs
      cases asking : operation.asksIn (session.ready script) with
      | none =>
          rw [asking] at asks
          exact .inl asks.continues
      | some asked =>
          rw [asking] at asks
          have noted : Continues (session.ready script).world asked :=
            ⟨by rw [asks.alike], [], asks.calls⟩
          rcases obtained : Context.obtainDefault.perform asked with ⟨failure | id, got⟩
          · have lazyUse := Uses.lazyUse ⟨asking, obtained⟩
            obtain ⟨-, fails⟩ := lazyUse.notMade failure rfl
            exact .inl ((noted.trans fails.continues).trans lazyUse.afterwards)
          · have lazyUse := Uses.lazyUse ⟨asking, obtained⟩
            cases known : session.world.defaultContext with
            | some usual =>
                obtain ⟨-, rfl⟩ := lazyUse.known usual known
                exact .inl (noted.trans lazyUse.afterwards)
            | none =>
                obtain ⟨-, makes⟩ := lazyUse.made known id rfl
                exact .inr ⟨_, asked, got, .inr ⟨known, asking⟩, asks.calls, makes,
                  lazyUse.afterwards⟩

theorem reached_concat
    (operations : List (Operation × List Outcome))
    (operation : Operation)
    (script : List Outcome) :
    reached (operations ++ [(operation, script)]) =
      ((reached operations).step operation script).2 := by
  rw [reached, run_append, run_cons]
  rfl

theorem MakesContext.contexts_step
    {context : Context}
    (makes : session.MakesContext operation script context) :
    (session.step operation script).2.world.contexts.length =
        session.world.contexts.length + 1 ∧
      (∀ id < session.world.contexts.length,
        ((session.step operation script).2.world.context id).original =
          (session.world.context id).original) ∧
      ((session.step operation script).2.world.context session.world.contexts.length).original =
        context.original := by
  obtain ⟨before, made, reason, -, makes, goesOn⟩ := makes
  have same : before.contexts = session.world.contexts := by
    obtain ⟨-, rfl⟩ | ⟨-, asks⟩ := reason
    · rfl
    · rw [(asks_ready asks).alike]
      rfl
  have contexts : made.contexts = session.world.contexts ++ [context] := by
    rw [makes.contexts, same]
  refine ⟨?_, ?_, ?_⟩
  · rw [goesOn.length_eq, contexts, List.length_append, List.length_singleton]
  · intro id inside
    rw [goesOn.original_eq, World.context, World.context, contexts,
      List.getElem?_append_left inside]
  · rw [goesOn.original_eq, World.context, contexts, List.getElem?_concat_length]
    rfl

/-- A further step that keeps a context does not change how it came about. -/
theorem CameAbout.concat
    {operations : List (Operation × List Outcome)}
    (cameAbout : CameAbout operations id)
    (same : (((reached operations).step operation script).2.world.context id).original =
      ((reached operations).world.context id).original) :
    CameAbout (operations ++ [(operation, script)]) id := by
  obtain ⟨earlier, maker, outcomes, later, context, split, number, makes, unchanged⟩ := cameAbout
  refine ⟨earlier, maker, outcomes, later ++ [(operation, script)], context, ?_, number, makes, ?_⟩
  · rw [split, List.append_assoc, List.cons_append]
  · rw [reached_concat, same, unchanged]

/-- Every context of a run came about in one of its steps. -/
theorem cameAbout_of_lt
    (operations : List (Operation × List Outcome))
    (inside : id < (reached operations).world.contexts.length) :
    CameAbout operations id := by
  induction operations using List.reverseRecOn with
  | nil => cases inside
  | append_singleton operations entry inductionHypothesis =>
      obtain ⟨operation, script⟩ := entry
      rw [reached_concat] at inside
      obtain still | ⟨context, makes⟩ := contexts_step (reached operations) operation script
      · rw [still.length_eq] at inside
        exact (inductionHypothesis inside).concat (still.original_eq id)
      · obtain ⟨oneMore, kept, last⟩ := makes.contexts_step
        rw [oneMore] at inside
        obtain earlier | rfl := Nat.lt_succ_iff_lt_or_eq.mp inside
        · exact (inductionHypothesis earlier).concat (kept id earlier)
        · refine ⟨operations, operation, script, [], context, rfl, rfl, makes, ?_⟩
          rw [reached_concat, last]

/-! ## The main result -/

/-- Over every run of operations, with any outcomes of calls: each use of the default context gets
the one there is, or else makes one, and only one that is made becomes the default context; uses get
the same context as long as no other one is set; an attempt that fails leaves no default context, so
that the next use makes an attempt again; what does not ask for the default context does the same
with any; setting it does nothing else; and every context came about by two calls that succeeded. -/
theorem default_context_over_runs (operations : List (Operation × List Outcome)) :
    let session := reached operations
    (∀ operation script asked outcome got,
      session.Uses operation script asked outcome got ->
      session.LazyUse operation script asked outcome got) ∧
    (∀ operation script id between laterOperation laterScript laterId,
      session.Yields operation script id ->
      (session.step operation script).2.Undisturbed between ->
      ((session.step operation script).2.run between).2.Yields laterOperation laterScript laterId ->
      laterId = id) ∧
    (∀ operation script asked failure tried between laterOperation laterScript laterAsked outcome
        got,
      session.Uses operation script asked (.error failure) tried ->
      (session.step operation script).2.Idle between ->
      ((session.step operation script).2.run between).2.Uses laterOperation laterScript laterAsked
        outcome got ->
      ((session.step operation script).2.run between).2.world.defaultContext = none ∧
        ∃ calls, Called laterAsked got (releaseCall Context.defaultEncoder :: calls)) ∧
    (∀ operation script,
      operation.sets session = none ->
      operation.asksIn (session.ready script) = none ->
      ∀ usual, (session.withDefault usual).step operation script =
        ((session.step operation script).1, (session.step operation script).2.withDefault usual)) ∧
    (∀ operation script usual,
      operation.sets session = some usual ->
      session.step operation script =
        (⟨.ok .nothing, []⟩, (session.ready script).withDefault usual)) ∧
    (∀ id < session.world.contexts.length, CameAbout operations id) := by
  intro session
  refine ⟨?_, ?_, ?_, ?_, ?_, ?_⟩
  · intro operation script asked outcome got uses
    exact uses.lazyUse
  · intro operation script id between laterOperation laterScript laterId yields undisturbed later
    obtain ⟨asked, got, uses⟩ := yields
    obtain ⟨laterAsked, laterGot, laterUses⟩ := later
    have known := defaultContext_of_undisturbed undisturbed uses.lazyUse.stored
    have same := (laterUses.lazyUse.known id known).1
    exact Except.ok.inj same
  · intro operation script asked failure tried between laterOperation laterScript laterAsked outcome
      got uses idle later
    have absent := defaultContext_of_idle idle uses.lazyUse.stored
    exact ⟨absent, later.lazyUse.attempts absent⟩
  · intro operation script sets unasked usual
    have same := indifferent_step sets unasked usual
    have found : (session.withDefault usual).ready script =
        (session.ready script).withDefault usual := rfl
    rw [step_eq, step_eq, found, same]
    rfl
  · intro operation script usual sets
    exact step_of_sets sets
  · intro id inside
    exact cameAbout_of_lt operations inside

/-- The encoding tool is not found when the default context is asked for, and a pipeline is made. -/
def failedAttempt : List (Operation × List Outcome) :=
  [(.showDefault, [.missing "ffmpeg"]), (.newPipeline "p" none, [])]

/-- The session after that attempt. -/
def afterFailedAttempt : Session where
  world := { pipelines := [{}] }
  pipelines := [("p", 0)]

theorem reached_failedAttempt : reached failedAttempt = afterFailedAttempt := by
  let failed : Session := { world := { trace := [.call (releaseCall Context.defaultEncoder)] } }
  have first : (({} : Session).step .showDefault [.missing "ffmpeg"]).2 = failed := rfl
  have second : (failed.step (.newPipeline "p" none) []).2 = afterFailedAttempt := rfl
  rw [reached, failedAttempt, run_cons, first, run_cons, second]
  rfl

/-- The pipeline makes the second attempt, and what opens a video then gets the same context. -/
theorem default_context_after_failedAttempt :
    (reached failedAttempt).Yields (.showContext "p") [] 0 ∧
      CameAbout (failedAttempt ++ [(.showContext "p", [])]) 0 ∧
      ∀ id, ((reached failedAttempt).step (.showContext "p") []).2.Yields
        (.probeVideo (.plain (.text "in.mp4")) none) [] id ↔ id = 0 := by
  have yields : (reached failedAttempt).Yields (.showContext "p") [] 0 := by
    rw [reached_failedAttempt]
    exact ⟨_, _, rfl, rfl⟩
  have again : ((reached failedAttempt).step (.showContext "p") []).2.Yields
      (.probeVideo (.plain (.text "in.mp4")) none) [] 0 := by
    rw [reached_failedAttempt]
    exact ⟨_, _, rfl, rfl⟩
  obtain ⟨-, same, -⟩ := default_context_over_runs failedAttempt
  obtain ⟨-, -, -, -, -, cameAbout⟩ :=
    default_context_over_runs (failedAttempt ++ [(.showContext "p", [])])
  refine ⟨yields, cameAbout 0 ?_, ?_⟩
  · rw [reached_concat, reached_failedAttempt]
    exact Nat.one_pos
  · intro id
    constructor
    · exact same _ _ 0 [] _ _ id yields trivial
    · rintro rfl
      exact again

end Session
end Filtergraph
