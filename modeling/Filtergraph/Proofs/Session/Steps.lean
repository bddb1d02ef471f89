import Filtergraph.Proofs.Session.Asking

/-!
# What a step does with contexts

An operation sets the default context, makes a context, asks for the default context, or leaves all
of them alone.
-/

namespace Filtergraph
namespace Operation

open World SessionAction

/-- The default context that an operation sets, if it sets one; it may set that there is none. -/
def sets (session : Session) : Operation -> Option (Option ContextId)
  | .setDefault context => (lookedUpOption session.contexts context).toOption
  | _ => none

/-- The world in which an operation asks for the default context, if it does. -/
def asksIn (session : Session) : Operation -> Option World
  | .showDefault => some session.world
  | .release none => some session.world
  | .probeVideo path none => do
    let _ ← path.word.toOption
    return session.world
  | .showContext pipeline => do
    let id ← (lookedUp (session.pipelines.lookup pipeline) pipeline).toOption
    Pipeline.asksIn id session.world
  | .build pipeline source output format tool strict => do
    let id ← (lookedUp (session.pipelines.lookup pipeline) pipeline).toOption
    let _ ← (source.resolve.map Subject.toSource).toOption
    let _ ← output.resolve.toOption
    let _ ← (FormatRequest.resolveOption format).toOption
    let tool ← (Draft.resolveOption tool .null).toOption
    let strict ← ((Draft.resolveOption strict (.bool false)).map Value.isTrue).toOption
    Pipeline.buildAsksIn id tool strict session.world
  | .dryRun pipeline source output format => do
    let id ← (lookedUp (session.pipelines.lookup pipeline) pipeline).toOption
    let _ ← (source.resolve.map Subject.toSource).toOption
    let _ ← (Draft.resolveOption output Pipeline.dryRunOutput).toOption
    let _ ← (FormatRequest.resolveOption format).toOption
    Pipeline.buildAsksIn id .null false session.world
  | .run pipeline source output format strict => do
    let id ← (lookedUp (session.pipelines.lookup pipeline) pipeline).toOption
    let _ ← (source.resolve.map Subject.toSource).toOption
    let _ ← output.resolve.toOption
    let _ ← (FormatRequest.resolveOption format).toOption
    let _ ← ((Draft.resolveOption strict (.bool false)).map Value.isTrue).toOption
    Pipeline.asksIn id session.world
  | _ => none

/-! ## Operations that may ask for the default context -/

theorem asks_showDefault (session : Session) :
    Asks (perform .showDefault) session (some session.world) := by
  refine (asks_obtainDefault session).bind ?_
  intro context after
  exact inert_describe context after

theorem asks_release (session : Session) :
    Asks (perform (.release none)) session (some session.world) := by
  refine (asks_obtainDefault session).bind ?_
  intro context after
  exact (inert_askRelease context after).map _

theorem asks_probeVideo (path : Draft) (session : Session) :
    Asks (perform (.probeVideo path none)) session (asksIn session (.probeVideo path none)) := by
  refine .after_lookup (reads_word path session) ?_
  intro path
  refine (asks_obtainDefault session).bind ?_
  intro context after
  exact (inert_probe context _ after).map _

/-- A pipeline asks for the default context unless it is bound. -/
theorem asks_showContext (pipeline : String) (session : Session) :
    Asks (perform (.showContext pipeline)) session (asksIn session (.showContext pipeline)) := by
  refine .after_lookup (reads_find (fun _ => rfl) pipeline) ?_
  intro id
  refine (asks_obtainContext id session).bind ?_
  intro context after
  exact inert_describe context after

/-- All that a command is built of is looked up before the pipeline is asked for its context. -/
theorem asks_buildOperation
    (pipeline : String)
    (source : SourceRequest)
    (output : Draft)
    (format : Option FormatRequest)
    (tool strict : Option Draft)
    (session : Session) :
    Asks (perform (.build pipeline source output format tool strict)) session
      (asksIn session (.build pipeline source output format tool strict)) := by
  refine .after_lookup (reads_find (fun _ => rfl) pipeline) ?_
  intro id
  refine .after_lookup (reads_openSource source session) ?_
  intro source
  refine .after_lookup (reads_value output session) ?_
  intro output
  refine .after_lookup (reads_format format session) ?_
  intro format
  refine .after_lookup (reads_valueOr .null tool session) ?_
  intro tool
  refine .after_lookup (reads_flag strict session) ?_
  intro strict
  exact (asks_build source output format tool strict id session).map _

/-- A command that is only shown is built without a check of the release. -/
theorem asks_dryRunOperation
    (pipeline : String)
    (source : SourceRequest)
    (output : Option Draft)
    (format : Option FormatRequest)
    (session : Session) :
    Asks (perform (.dryRun pipeline source output format)) session
      (asksIn session (.dryRun pipeline source output format)) := by
  refine .after_lookup (reads_find (fun _ => rfl) pipeline) ?_
  intro id
  refine .after_lookup (reads_openSource source session) ?_
  intro source
  refine .after_lookup (reads_valueOr _ output session) ?_
  intro output
  refine .after_lookup (reads_format format session) ?_
  intro format
  exact (asks_dryRun source output format id session).map _

/-- A run asks for the context before the command is built. -/
theorem asks_runOperation
    (pipeline : String)
    (source : SourceRequest)
    (output : Draft)
    (format : Option FormatRequest)
    (strict : Option Draft)
    (session : Session) :
    Asks (perform (.run pipeline source output format strict)) session
      (asksIn session (.run pipeline source output format strict)) := by
  refine .after_lookup (reads_find (fun _ => rfl) pipeline) ?_
  intro id
  refine .after_lookup (reads_openSource source session) ?_
  intro source
  refine .after_lookup (reads_value output session) ?_
  intro output
  refine .after_lookup (reads_format format session) ?_
  intro format
  refine .after_lookup (reads_flag strict session) ?_
  intro strict
  exact (asks_run source output format strict id session).map _

/-- Setting the default context does nothing else. -/
theorem perform_of_sets
    {session : Session}
    {operation : Operation}
    {usual : Option ContextId}
    (sets : operation.sets session = some usual) :
    operation.perform.perform session = (.ok .nothing, session.withDefault usual) := by
  cases operation with
  | setDefault context =>
      have found : lookedUpOption session.contexts context = .ok usual := by
        rw [Operation.sets] at sets
        cases looked : lookedUpOption session.contexts context with
        | error failure => simp [looked, Except.toOption] at sets
        | ok found =>
            rw [looked] at sets
            exact congrArg Except.ok (Option.some.inj sets)
      have reads : Reads (findOption Session.contexts context) session (.ok usual) :=
        found ▸ reads_findOption (fun _ => rfl) context
      change (findOption Session.contexts context >>= _).perform session = _
      rw [perform_bind, reads.perform_eq]
      rfl
  | _ => cases sets

/-- An operation that makes a context, if it succeeds. -/
def constructs : Operation -> Bool
  | .newContext _ _ _ _ _ => true
  | _ => false

/-! ## Operations that ask for no default context -/

section Inert

variable (session : Session)
variable (name : String)
variable (filter pipeline path : String)
variable (filters : List String)
variable (draft arguments : Draft)
variable (tool strict : Option Draft)
variable (request : Option FormatRequest)

theorem inert_newRunner (logger : Option String) (limit : Option Draft) :
    Inert (perform (.newRunner name logger limit)) session := by
  refine (reads_wordOr .null limit session).bind_inert ?_
  intro limit
  exact (Inert.modify session rfl fun _ => rfl).map _

/-- Setting the default context is inert only in so far as it fails: the name is unknown. -/
theorem inert_setDefault
    {context : Option String}
    (sets : sets session (.setDefault context) = none) :
    Inert (perform (.setDefault context)) session := by
  have reads : Reads (findOption Session.contexts context) session
      (lookedUpOption session.contexts context) := reads_findOption (fun _ => rfl) context
  refine reads.bind_inert_of_ok ?_
  intro found succeeds
  rw [Operation.sets, succeeds] at sets
  cases sets

/-- A context that is named is asked for its release without the default context. -/
theorem inert_releaseOf (context : String) :
    Inert (perform (.release (some context))) session := by
  refine inert_findOption_bind (fun _ => rfl) context ?_
  intro context
  exact (inert_askRelease context session).map _

/-- A command is run by a runner of its own, or by that of a context; nothing else is asked. -/
theorem inert_command (runner : RunnerName) :
    Inert (perform (.command runner arguments)) session := by
  cases runner with
  | runner name =>
      refine (reads_find (fun _ => rfl) name).bind_inert ?_
      intro runner
      refine (inert_argumentsOf arguments session).bind ?_
      intro arguments after _
      exact (inert_runCommand runner arguments after).map _
  | ofContext name =>
      refine (reads_find (fun _ => rfl) name).bind_inert ?_
      intro context
      refine (inert_argumentsOf arguments session).bind ?_
      intro arguments after _
      refine .get_bind ?_ fun _ => rfl
      exact (inert_runCommand _ arguments after).map _

theorem inert_probeBy (context : String) :
    Inert (perform (.probe context draft)) session := by
  refine (reads_word draft session).bind_inert ?_
  intro path
  refine (reads_find (fun _ => rfl) context).bind_inert ?_
  intro context
  exact (inert_probe context path session).map _

theorem inert_probeVideoBy (context : String) :
    Inert (perform (.probeVideo draft (some context))) session := by
  refine (reads_word draft session).bind_inert ?_
  intro path
  refine inert_findOption_bind (fun _ => rfl) context ?_
  intro context
  exact (inert_probe context _ session).map _

/-- A filter is made of what is asked for and of the files. -/
theorem inert_newFilter (request : FilterRequest) :
    Inert (perform (.newFilter name request)) session := by
  refine .get_bind ?_ fun _ => rfl
  refine (reads_ofExcept _ session).bind_inert ?_
  intro filter
  refine (inert_change session ⟨rfl, [], .of_eq rfl rfl⟩ fun _ => rfl).bind ?_
  intro _ added _
  exact (Inert.modify added rfl fun _ => rfl).map _

theorem inert_fragment :
    Inert (perform (.fragment filter request)) session := by
  refine (inert_findFilter filter session).bind ?_
  intro filter after _
  refine (reads_format request after).bind_inert ?_
  intro format
  exact (reads_ofExcept _ after).inert.map _

/-- Only for a single input is the format looked at. -/
theorem inert_apply (source : SourceRequest) :
    Inert (perform (.apply filter source request)) session := by
  refine (inert_findFilter filter session).bind ?_
  intro filter after _
  refine (reads_ofExcept _ after).bind_inert ?_
  intro subject
  cases subject with
  | single input =>
      refine (reads_format request after).bind_inert ?_
      intro format
      exact (reads_ofExcept _ after).inert.map _
  | several inputs =>
      exact (reads_ofExcept _ after).inert.map _

theorem inert_assign (property : String) :
    Inert (perform (.assign filter property draft)) session := by
  refine (reads_find (fun _ => rfl) filter).bind_inert ?_
  intro id
  refine (reads_value draft session).bind_inert ?_
  intro value
  refine .get_bind ?_ fun _ => rfl
  refine (reads_ofExcept _ session).bind_inert ?_
  intro filter
  exact (inert_change session ⟨rfl, [], .of_eq rfl rfl⟩ fun _ => rfl).map _

theorem inert_writeFile :
    Inert (perform (.writeFile path)) session :=
  (inert_changeFiles _ session).map _

theorem inert_removeFile :
    Inert (perform (.removeFile path)) session :=
  (inert_changeFiles _ session).map _

/-- A pipeline without a context does not ask for one when it is made. -/
theorem inert_newPipeline (context : Option String) :
    Inert (perform (.newPipeline name context)) session := by
  refine (reads_findOption (fun _ => rfl) context).bind_inert ?_
  intro context
  refine (inert_createPipeline context session).bind ?_
  intro pipeline made _
  refine (Inert.modify made rfl fun _ => rfl).bind ?_
  intro _ named _
  exact (inert_filterNames pipeline named).map _

/-- Filters are added one by one, until a name is unknown. -/
theorem inert_addTo :
    Inert (perform (.add pipeline filters)) session := by
  refine (reads_find (fun _ => rfl) pipeline).bind_inert ?_
  intro pipeline
  refine (Inert.forIn ?_ filters _ session).bind ?_
  · intro name _ between
    refine (reads_find (fun _ => rfl) name).bind_inert ?_
    intro filter
    exact (inert_add pipeline filter between).map _
  · intro _ added _
    exact (inert_filterNames pipeline added).map _

theorem inert_list :
    Inert (perform (.list pipeline)) session := by
  refine (reads_find (fun _ => rfl) pipeline).bind_inert ?_
  intro pipeline
  exact (inert_filterNames pipeline session).map _

/-- Compiling a pipeline needs no context. -/
theorem inert_compilePipeline :
    Inert (perform (.compile pipeline request tool strict)) session := by
  refine (reads_find (fun _ => rfl) pipeline).bind_inert ?_
  intro pipeline
  refine (reads_format request session).bind_inert ?_
  intro format
  refine inert_checking tool strict session ?_
  intro tool strict
  exact (inert_compile pipeline format tool strict session).map _

/-- Neither does compiling filters that no pipeline holds. -/
theorem inert_compileFilters (logger : Option String) :
    Inert (perform (.compileFilters filters request tool strict logger)) session := by
  refine (Inert.mapM ?_ filters session).bind ?_
  · intro name between
    exact (reads_find (fun _ => rfl) name).inert
  · intro filters found _
    refine (reads_format request found).bind_inert ?_
    intro format
    refine inert_checking tool strict found ?_
    intro tool strict
    refine .get_bind ?_ fun _ => rfl
    exact (inert_ofReport _ _ found).map _

theorem inert_order :
    Inert (perform (.order filters tool strict)) session := by
  refine (Inert.mapM ?_ filters session).bind ?_
  · intro name between
    refine (reads_find (fun _ => rfl) name).bind_inert ?_
    intro filter
    exact .pure _ _
  · intro entries found _
    refine inert_checking tool strict found ?_
    intro tool strict
    refine .get_bind ?_ fun _ => rfl
    exact (inert_ofReport _ _ found).map _

theorem inert_check :
    Inert (perform (.check filters tool strict)) session := by
  refine (Inert.mapM inert_findFilter filters session).bind ?_
  intro filters found _
  refine inert_checking tool strict found ?_
  intro tool strict
  exact (inert_ofReport _ _ found).map _

end Inert

/-! ## All operations -/

/-- An operation that neither sets the default context nor makes a context asks for the default
context in a world that is known, or leaves it alone. -/
theorem asks_perform
    {session : Session}
    {operation : Operation}
    (sets : operation.sets session = none)
    (constructs : operation.constructs = false) :
    Asks operation.perform session (operation.asksIn session) := by
  cases operation with
  | newContext => cases constructs
  | newRunner => exact inert_newRunner ..
  | setDefault => exact inert_setDefault session sets
  | showDefault => exact asks_showDefault session
  | release context =>
      cases context with
      | none => exact asks_release session
      | some context => exact inert_releaseOf session context
  | command => exact inert_command ..
  | probe => exact inert_probeBy ..
  | probeVideo path context =>
      cases context with
      | none => exact asks_probeVideo path session
      | some context => exact inert_probeVideoBy session path context
  | newFilter => exact inert_newFilter ..
  | fragment => exact inert_fragment ..
  | apply => exact inert_apply ..
  | assign => exact inert_assign ..
  | writeFile => exact inert_writeFile ..
  | removeFile => exact inert_removeFile ..
  | newPipeline => exact inert_newPipeline ..
  | add => exact inert_addTo ..
  | list => exact inert_list ..
  | showContext => exact asks_showContext ..
  | compile => exact inert_compilePipeline ..
  | build => exact asks_buildOperation ..
  | dryRun => exact asks_dryRunOperation ..
  | run => exact asks_runOperation ..
  | compileFilters => exact inert_compileFilters ..
  | order => exact inert_order ..
  | check => exact inert_check ..

/-! ## Operations that make a context -/

/-- In a session, an action is indifferent to the default context and may make one context. -/
structure MayMake (action : SessionAction α) (session : Session) : Prop where
  indifferent : Indifferent action session
  contexts : Continues session.world (action.perform session).2.world ∨
    ∃ made context, Makes session.world made context ∧
      Continues made (action.perform session).2.world

namespace MayMake

variable {action : SessionAction α}
variable {next : α -> SessionAction β}
variable {session : Session}

/-- What is looked up first makes no context. -/
theorem after_lookup
    {outcome : Except Failure α}
    (reads : Reads action session outcome)
    (rest : ∀ a, MayMake (next a) session) :
    MayMake (action >>= next) session := by
  refine ⟨reads.inert.indifferent.bind ?_, ?_⟩
  · intro a after performed
    rw [reads.perform_eq] at performed
    obtain ⟨-, rfl⟩ := Prod.mk.inj performed
    exact (rest a).indifferent
  · rw [perform_bind, reads.perform_eq]
    cases outcome with
    | error failure => exact .inl (.refl _)
    | ok a => exact (rest a).contexts

/-- What follows makes no other context. -/
protected theorem bind
    (first : MayMake action session)
    (rest : ∀ a after, Inert (next a) after) :
    MayMake (action >>= next) session := by
  obtain ⟨indifferent, contexts⟩ := first
  refine ⟨indifferent.bind fun a after _ => (rest a after).indifferent, ?_⟩
  rw [perform_bind]
  rcases performed : action.perform session with ⟨failure | a, after⟩
  all_goals rw [performed] at contexts
  · exact contexts
  · have continues := (rest a after).continues
    obtain still | ⟨made, context, makes, goesOn⟩ := contexts
    · exact .inl (still.trans continues)
    · exact .inr ⟨made, context, makes, goesOn.trans continues⟩

end MayMake

/-- Making a context does the same with any default context. -/
theorem mayMake_create
    (encoder prober : Word)
    (logger : String)
    (runner : Runner)
    (session : Session) :
    MayMake (act (Context.create encoder prober logger runner)) session := by
  refine ⟨?_, ?_⟩
  · intro usual
    have performed : (act (Context.create encoder prober logger runner)).perform
        (session.withDefault usual) =
          (((Context.create encoder prober logger runner).perform
            (session.world.withDefault usual)).1, { session with
              world := ((Context.create encoder prober logger runner).perform
                (session.world.withDefault usual)).2 }) := rfl
    have first : (session.world.withDefault usual).nextOutcome = session.world.nextOutcome := rfl
    have second : ((session.world.withDefault usual).afterCall (releaseCall encoder)).nextOutcome =
        (session.world.afterCall (releaseCall encoder)).nextOutcome := rfl
    rw [performed, perform_act, Context.perform_create, Context.perform_create, first]
    dsimp only
    rw [second]
    cases Context.verification .encoder session.world.nextOutcome with
    | error failure => rfl
    | ok _ =>
        dsimp only
        cases Context.verification .prober
          (session.world.afterCall (releaseCall encoder)).nextOutcome <;> rfl
  · rw [perform_act]
    obtain ⟨made, performed, makes, -⟩ | ⟨failure, tried, performed, fails, -⟩ :=
      Context.create_cases encoder prober logger runner session.world
    · exact .inr ⟨made, _, makes, performed ▸ .refl made⟩
    · exact .inl (performed ▸ fails.continues)

/-- An operation that makes a context neither reads nor changes which one is the default context. -/
theorem mayMake_perform
    {operation : Operation}
    (constructs : operation.constructs)
    (session : Session) :
    MayMake operation.perform session := by
  cases operation with
  | newContext name encoder prober logger runner =>
      refine .after_lookup (reads_wordOr _ encoder session) ?_
      intro encoder
      refine .after_lookup (reads_wordOr _ prober session) ?_
      intro prober
      refine .after_lookup (reads_findOption (fun _ => rfl) runner) ?_
      intro runner
      refine (mayMake_create encoder prober _ _ session).bind ?_
      intro context made
      refine (Inert.modify made rfl fun _ => rfl).bind ?_
      intro _ named _
      refine (inert_namesOf context named).bind ?_
      intro names after _
      exact .get_bind (.pure _ _) fun _ => rfl
  | _ => cases constructs

end Operation
end Filtergraph
