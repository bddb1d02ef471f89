import Filtergraph.Proofs.Session.Steps

/-!
# Uses of pipelines

An operation on a pipeline looks up all that it needs first, and fails if something is unknown or
does not fit.  What remains is a use of the pipeline, which knows nothing of names and drafts.
-/

namespace Filtergraph

/-- What is done with a pipeline once all that is needed for it has been looked up. -/
inductive Use where
  | context
  | compile (format : Option Format) (tool : Value) (strict : Bool)
  | build (source : Source) (output : Argument) (format : Option Format) (tool : Value)
      (strict : Bool)
  | dryRun (source : Source) (output : Argument) (format : Option Format)
  | run (source : Source) (output : Argument) (format : Option Format) (strict : Bool)

namespace Use

open SessionAction

/-- Uses a pipeline. -/
def perform (id : PipelineId) : Use -> SessionAction Reply
  | .context => do describe (← act (Pipeline.obtainContext id))
  | .compile format tool strict => do
    return .contribution (some (← act (Pipeline.compile id format tool strict)))
  | .build source output format tool strict => do
    return .contribution (some (← act (Pipeline.build id source output format tool strict)))
  | .dryRun source output format => do
    return .text (← act (Pipeline.dryRun id source output format))
  | .run source output format strict => do
    return .record (.result (← act (Pipeline.run id source output format strict)))

/-- The world in which a use asks for the default context, if it does. -/
def asksIn (id : PipelineId) (world : World) : Use -> Option World
  | .context => Pipeline.asksIn id world
  | .compile _ _ _ => none
  | .build _ _ _ tool strict => Pipeline.buildAsksIn id tool strict world
  | .dryRun _ _ _ => Pipeline.buildAsksIn id .null false world
  | .run _ _ _ _ => Pipeline.asksIn id world

end Use

namespace Operation

open SessionAction

/-- The pipeline that an operation uses, and how, if all that it needs is found. -/
def use? (session : Session) : Operation -> Option (PipelineId × Use)
  | .showContext pipeline => do
    let id ← (lookedUp (session.pipelines.lookup pipeline) pipeline).toOption
    return (id, .context)
  | .compile pipeline format tool strict => do
    let id ← (lookedUp (session.pipelines.lookup pipeline) pipeline).toOption
    let format ← (FormatRequest.resolveOption format).toOption
    let tool ← (Draft.resolveOption tool .null).toOption
    let strict ← ((Draft.resolveOption strict (.bool false)).map Value.isTrue).toOption
    return (id, .compile format tool strict)
  | .build pipeline source output format tool strict => do
    let id ← (lookedUp (session.pipelines.lookup pipeline) pipeline).toOption
    let source ← (source.resolve.map Subject.toSource).toOption
    let output ← output.resolve.toOption
    let format ← (FormatRequest.resolveOption format).toOption
    let tool ← (Draft.resolveOption tool .null).toOption
    let strict ← ((Draft.resolveOption strict (.bool false)).map Value.isTrue).toOption
    return (id, .build source output format tool strict)
  | .dryRun pipeline source output format => do
    let id ← (lookedUp (session.pipelines.lookup pipeline) pipeline).toOption
    let source ← (source.resolve.map Subject.toSource).toOption
    let output ← (Draft.resolveOption output Pipeline.dryRunOutput).toOption
    let format ← (FormatRequest.resolveOption format).toOption
    return (id, .dryRun source output format)
  | .run pipeline source output format strict => do
    let id ← (lookedUp (session.pipelines.lookup pipeline) pipeline).toOption
    let source ← (source.resolve.map Subject.toSource).toOption
    let output ← output.resolve.toOption
    let format ← (FormatRequest.resolveOption format).toOption
    let strict ← ((Draft.resolveOption strict (.bool false)).map Value.isTrue).toOption
    return (id, .run source output format strict)
  | _ => none

/-- An operation that uses a pipeline, if all that it needs is found. -/
def isUse : Operation -> Bool
  | .showContext _ | .compile _ _ _ _ | .build _ _ _ _ _ _ | .dryRun _ _ _ _ | .run _ _ _ _ _ =>
    true
  | _ => false

/-- An action comes down to a use of a pipeline, or fails and changes nothing. -/
def Resolves
    (action : SessionAction Reply)
    (session : Session) :
    Option (PipelineId × Use) -> Prop
  | some (id, use) => action.perform session = (use.perform id).perform session
  | none => ∃ failure, action.perform session = (.error failure, session)

theorem Resolves.after_lookup
    {action : SessionAction α}
    {next : α -> SessionAction Reply}
    {session : Session}
    {outcome : Except Failure α}
    {found : α -> Option (PipelineId × Use)}
    (reads : Reads action session outcome)
    (rest : ∀ a, Resolves (next a) session (found a)) :
    Resolves (action >>= next) session (outcome.toOption.bind found) := by
  have performed := perform_bind action next session
  rw [reads.perform_eq] at performed
  cases outcome with
  | error failure => exact ⟨failure, performed⟩
  | ok a =>
      have following := rest a
      have same : (Except.ok a : Except Failure α).toOption.bind found = found a := rfl
      rw [same]
      cases foundToo : found a with
      | none =>
          rw [foundToo] at following
          obtain ⟨failure, fails⟩ := following
          exact ⟨failure, performed.trans fails⟩
      | some used =>
          rw [foundToo] at following
          exact performed.trans following

theorem resolves_use (id : PipelineId) (use : Use) (session : Session) :
    Resolves (use.perform id) session (some (id, use)) := rfl

/-- An operation that uses pipelines looks up all that it needs before it does anything. -/
theorem resolves_perform
    {operation : Operation}
    (isUse : operation.isUse)
    (session : Session) :
    Resolves operation.perform session (operation.use? session) := by
  cases operation with
  | showContext pipeline =>
      refine .after_lookup (reads_find (fun _ => rfl) pipeline) ?_
      intro id
      exact resolves_use id .context session
  | compile pipeline format tool strict =>
      refine .after_lookup (reads_find (fun _ => rfl) pipeline) ?_
      intro id
      refine .after_lookup (reads_format format session) ?_
      intro format
      refine .after_lookup (reads_valueOr .null tool session) ?_
      intro tool
      refine .after_lookup (reads_flag strict session) ?_
      intro strict
      exact resolves_use id (.compile format tool strict) session
  | build pipeline source output format tool strict =>
      refine .after_lookup (reads_find (fun _ => rfl) pipeline) ?_
      intro id
      refine .after_lookup (reads_openSource source session) ?_
      intro source
      refine .after_lookup (reads_value output session) ?_
      intro output
      refine .after_lookup (reads_format format session) ?_
      intro format
      refine .after_lookup (reads_valueOr .null tool session) ?_
      intro tool
      refine .after_lookup (reads_flag strict session) ?_
      intro strict
      exact resolves_use id (.build source output format tool strict) session
  | dryRun pipeline source output format =>
      refine .after_lookup (reads_find (fun _ => rfl) pipeline) ?_
      intro id
      refine .after_lookup (reads_openSource source session) ?_
      intro source
      refine .after_lookup (reads_valueOr _ output session) ?_
      intro output
      refine .after_lookup (reads_format format session) ?_
      intro format
      exact resolves_use id (.dryRun source output format) session
  | run pipeline source output format strict =>
      refine .after_lookup (reads_find (fun _ => rfl) pipeline) ?_
      intro id
      refine .after_lookup (reads_openSource source session) ?_
      intro source
      refine .after_lookup (reads_value output session) ?_
      intro output
      refine .after_lookup (reads_format format session) ?_
      intro format
      refine .after_lookup (reads_flag strict session) ?_
      intro strict
      exact resolves_use id (.run source output format strict) session
  | _ => cases isUse

/-- Where an operation asks for the default context is told by the use that it comes down to. -/
theorem asksIn_eq_use
    {operation : Operation}
    (isUse : operation.isUse)
    (session : Session) :
    operation.asksIn session =
      (operation.use? session).bind fun use => use.2.asksIn use.1 session.world := by
  cases operation with
  | showContext _ | compile _ _ _ _ | build _ _ _ _ _ _ | dryRun _ _ _ _ | run _ _ _ _ _ =>
      simp [use?, asksIn, Use.asksIn, Option.bind_assoc]
  | _ => cases isUse

/-- Only uses use a pipeline. -/
theorem isUse_of_use
    {operation : Operation}
    {session : Session}
    {used : PipelineId × Use}
    (uses : operation.use? session = some used) :
    operation.isUse := by
  cases operation <;> first | rfl | cases uses

/-- A use performs what the names in it stand for. -/
theorem perform_of_use
    {operation : Operation}
    {session : Session}
    {id : PipelineId}
    {use : Use}
    (uses : operation.use? session = some (id, use)) :
    operation.perform.perform session = (use.perform id).perform session := by
  have resolves := resolves_perform (isUse_of_use uses) session
  rwa [uses] at resolves

end Operation
end Filtergraph
