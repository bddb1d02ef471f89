import Filtergraph.Proofs.World.Runs
import Filtergraph.World.Probe

/-!
# How contexts come into existence

A context comes into existence after exactly two calls that succeed, the encoding tool first.  From
then on it stays what it is, but for the release that it learns.
-/

namespace Filtergraph

/-- The tool ran to its end and told success. -/
def Outcome.succeeds : Outcome -> Bool
  | .finished status _ _ => isSuccess status
  | _ => false

/-- A context as it came into existence. -/
def Context.original (context : Context) : Context :=
  { context with release := none }

namespace World

/-- The world with another default context, or with none. -/
def withDefault (world : World) (usual : Option ContextId) : World :=
  { world with defaultContext := usual }

theorem getD_map_original (world : World) (id : ContextId) :
    (world.contexts.map Context.original)[id]?.getD default = (world.context id).original := by
  rw [List.getElem?_map, World.context]
  cases world.contexts[id]? <;> rfl

/-- No context comes into existence, and none changes but for its release; calls may be made. -/
structure Continues (before after : World) : Prop where
  contexts : after.contexts.map Context.original = before.contexts.map Context.original
  calls : ∃ made, Called before after made

namespace Continues

variable {before between after : World}

protected theorem refl (world : World) : Continues world world :=
  ⟨rfl, [], .refl world⟩

protected theorem trans
    (one : Continues before between)
    (two : Continues between after) :
    Continues before after := by
  obtain ⟨made, called⟩ := one.calls
  obtain ⟨more, calledToo⟩ := two.calls
  exact ⟨two.contexts.trans one.contexts, made ++ more, called.trans calledToo⟩

/-- No context is made. -/
theorem length_eq (continues : Continues before after) :
    after.contexts.length = before.contexts.length := by
  simpa using congrArg List.length continues.contexts

/-- A context may get to know its release, and stays the same apart from that. -/
theorem original_eq
    (continues : Continues before after)
    (id : ContextId) :
    (after.context id).original = (before.context id).original := by
  have same := congrArg (fun contexts => contexts[id]?.getD default) continues.contexts
  simpa only [getD_map_original] using same

end Continues

theorem continues_afterCall (world : World) (call : Call) :
    Continues world (world.afterCall call) :=
  ⟨rfl, _, called_afterCall world call⟩

theorem continues_afterNotes (world : World) (logger : String) (notes : List Note) :
    Continues world (world.afterNotes logger notes) :=
  ⟨rfl, _, called_afterNotes world logger notes⟩

/-- Learning a release changes nothing else about a context. -/
theorem continues_keepRelease
    (id : ContextId)
    (world : World)
    (release : Except Failure (Option String)) :
    Continues world (Context.keepRelease id world release) := by
  refine ⟨?_, [], ?_⟩
  · rw [Context.keepRelease.eq_def]
    split
    · next release =>
      have same : Context.original { world.context id with release := some release } =
          (world.context id).original := rfl
      rw [setContext, List.map_set, same, ← getD_map_original, set_getD]
    · rfl
  · rw [Context.keepRelease.eq_def]
    split <;> exact .of_eq rfl rfl

/-- Asking for a release makes no context. -/
theorem continues_askRelease (id : ContextId) (world : World) :
    Continues world ((Context.askRelease id).perform world).2 := by
  rw [Context.perform_askRelease]
  dsimp only
  split
  · exact .refl world
  · have asked := continues_afterCall world (releaseCall (world.context id).encoder)
    exact (asked.trans (continues_keepRelease _ _ _)).trans (continues_afterNotes _ _ _)

/-- A context comes into existence behind all others.  Before it does, its two tools are called, the
encoding tool first, and nothing else is; both calls succeed. -/
structure Makes (before after : World) (context : Context) : Prop where
  calls : Called before after [releaseCall context.encoder, releaseCall context.prober]
  encoderWorks : (before.outcomeAt 0).succeeds
  proberWorks : (before.outcomeAt 1).succeeds
  contexts : after.contexts = before.contexts ++ [context]

/-- A context does not come into existence: the call of the encoding tool does not succeed, or the
call of the probing tool does not. -/
structure FailsToMake (before after : World) (encoder prober : Word) : Prop where
  contexts : after.contexts = before.contexts
  calls :
    (before.outcomeAt 0).succeeds = false ∧ Called before after [releaseCall encoder] ∨
      (before.outcomeAt 0).succeeds ∧ (before.outcomeAt 1).succeeds = false ∧
        Called before after [releaseCall encoder, releaseCall prober]

/-- Where no context is made, all contexts stay. -/
theorem FailsToMake.continues
    {before after : World}
    {encoder prober : Word}
    (fails : FailsToMake before after encoder prober) :
    Continues before after := by
  refine ⟨congrArg _ fails.contexts, ?_⟩
  obtain ⟨-, called⟩ | ⟨-, -, called⟩ := fails.calls
  · exact ⟨_, called⟩
  · exact ⟨_, called⟩

end World

namespace Context

open World

/-- A tool is taken to work exactly if its call succeeds. -/
theorem verification_eq_ok_iff
    {tool : Tool}
    {outcome : Outcome} :
    verification tool outcome = .ok () ↔ outcome.succeeds := by
  cases outcome with
  | finished status output errors =>
      rw [verification, Outcome.succeeds]
      cases isSuccess status <;> simp
  | _ => simp [verification, Outcome.succeeds]

theorem succeeds_of_verification_error
    {tool : Tool}
    {outcome : Outcome}
    {failure : Failure}
    (fails : verification tool outcome = .error failure) :
    outcome.succeeds = false := by
  by_contra succeeds
  have verified : verification tool outcome = .ok () :=
    verification_eq_ok_iff.mpr (Bool.of_not_eq_false succeeds)
  cases fails.symm.trans verified

/-- Making a context either makes it, or fails and makes none.  The default context stays. -/
theorem create_cases
    (encoder prober : Word)
    (logger : String)
    (runner : Runner)
    (world : World) :
    (∃ made, (create encoder prober logger runner).perform world =
        (.ok world.contexts.length, made) ∧
      Makes world made { encoder, prober, logger, runner } ∧
      made.defaultContext = world.defaultContext) ∨
    (∃ failure tried, (create encoder prober logger runner).perform world =
        (.error failure, tried) ∧
      FailsToMake world tried encoder prober ∧
      tried.defaultContext = world.defaultContext) := by
  have encoderAsked := called_afterCall world (releaseCall encoder)
  have bothAsked := encoderAsked.trans (called_afterCall _ (releaseCall prober))
  have first : world.nextOutcome = world.outcomeAt 0 := (Called.refl world).nextOutcome_eq
  have second : (world.afterCall (releaseCall encoder)).nextOutcome = world.outcomeAt 1 :=
    encoderAsked.nextOutcome_eq
  rw [perform_create, first]
  dsimp only
  rw [second]
  cases verified : verification .encoder (world.outcomeAt 0) with
  | error failure =>
      have broken := succeeds_of_verification_error verified
      exact .inr ⟨failure, _, rfl, ⟨rfl, .inl ⟨broken, encoderAsked⟩⟩, rfl⟩
  | ok _ =>
      have encoderWorks := verification_eq_ok_iff.mp verified
      cases verifiedToo : verification .prober (world.outcomeAt 1) with
      | error failure =>
          have broken := succeeds_of_verification_error verifiedToo
          exact .inr ⟨failure, _, rfl, ⟨rfl, .inr ⟨encoderWorks, broken, bothAsked⟩⟩, rfl⟩
      | ok _ =>
          have proberWorks := verification_eq_ok_iff.mp verifiedToo
          have noted := bothAsked.trans (called_afterNotes _ logger [verifiedNote])
          exact .inl ⟨_, rfl, ⟨noted.unchanged rfl rfl, encoderWorks, proberWorks, rfl⟩, rfl⟩

/-- The context that is made where there is no default one. -/
def usual : Context where
  encoder := defaultEncoder
  prober := defaultProber
  logger := defaultLogger
  runner := ⟨defaultLogger, .null⟩

/-- Where there is no default context, either one is made and becomes the default context, or there
is none afterwards. -/
theorem obtainDefault_cases
    {world : World}
    (absent : world.defaultContext = none) :
    (∃ made, obtainDefault.perform world = (.ok world.contexts.length, made) ∧
      Makes world made usual ∧ made.defaultContext = some world.contexts.length) ∨
    (∃ failure tried, obtainDefault.perform world = (.error failure, tried) ∧
      FailsToMake world tried defaultEncoder defaultProber ∧ tried.defaultContext = none) := by
  rw [perform_obtainDefault, absent]
  obtain ⟨made, performed, makes, -⟩ | ⟨failure, tried, performed, fails, same⟩ :=
    create_cases defaultEncoder defaultProber defaultLogger ⟨defaultLogger, .null⟩ world
  · rw [performed]
    have kept : Makes world (made.withDefault (some world.contexts.length)) usual :=
      ⟨makes.calls.unchanged rfl rfl, makes.encoderWorks, makes.proberWorks, makes.contexts⟩
    exact .inl ⟨_, rfl, kept, rfl⟩
  · rw [performed]
    exact .inr ⟨failure, tried, rfl, fails, same.trans absent⟩

end Context
end Filtergraph
