import Filtergraph.Proofs.Session.Defaults
import Filtergraph.Proofs.Session.Kinds

/-!
# Soundness of sessions

In every session that a run reaches, what names stand for is there, and so are the default context
and the contexts of pipelines.
-/

namespace Filtergraph

/-- A name that has been given stands for what it was given to; other names are as before. -/
theorem Names.lookup_bind
    (names : Names α)
    (name other : String)
    (a : α) :
    (names.bind name a).lookup other = if other = name then some a else names.lookup other := by
  by_cases same : other = name
  · rw [Names.bind, same, List.lookup_cons_self, if_pos rfl]
  · rw [Names.bind, List.lookup_cons, beq_false_of_ne same, if_neg same]
    induction names with
    | nil => rfl
    | cons entry rest inductionHypothesis =>
        obtain ⟨key, kept⟩ := entry
        rw [List.filter_cons]
        by_cases hidden : key = name
        · subst hidden
          rw [if_neg (by simp), List.lookup_cons, beq_false_of_ne same]
          exact inductionHypothesis
        · rw [if_pos (by simpa using hidden), List.lookup_cons, List.lookup_cons]
          cases other == key with
          | true => rfl
          | false => exact inductionHypothesis

namespace Session

open World

/-- What names stand for, the default context, and the contexts of pipelines are there. -/
structure Sound (session : Session) : Prop where
  contextNames : ∀ name id, session.contexts.lookup name = some id ->
    id < session.world.contexts.length
  pipelineNames : ∀ name id, session.pipelines.lookup name = some id ->
    id < session.world.pipelines.length
  usual : ∀ id, session.world.defaultContext = some id -> id < session.world.contexts.length
  bindings : ∀ id context, (session.world.pipeline id).context = some context ->
    context < session.world.contexts.length

variable {session next : Session}
variable {kind : Kind}

/-- What a sound session knows is there. -/
theorem Sound.of_knows
    {context : ContextId}
    (sound : session.Sound)
    (known : session.Knows context) :
    context < session.world.contexts.length := by
  rcases known with there | ⟨name, stands⟩
  · exact there
  · exact sound.contextNames name context stands

theorem sound_empty : ({} : Session).Sound where
  contextNames := fun _ _ stands => by cases stands
  pipelineNames := fun _ _ stands => by cases stands
  usual := fun _ same => by cases same
  bindings := fun id _ bound => by cases id <;> cases bound

/-- Where contexts and pipelines are added at most, what was there stays there. -/
theorem Sound.change
    (sound : session.Sound)
    (change : Change kind session next) :
    next.Sound := by
  have ⟨contextNames, pipelineNames, usual, bindings⟩ := sound
  cases change with
  | newContext _ context _ =>
      have grows : (session.world.addContext context).contexts.length =
          session.world.contexts.length + 1 := List.length_append
      refine ⟨?_, pipelineNames, ?_, ?_⟩
      · intro name id stands
        exact grows ▸ Nat.lt_succ_of_lt (contextNames name id stands)
      · intro id same
        exact grows ▸ Nat.lt_succ_of_lt (usual id same)
      · intro id context bound
        exact grows ▸ Nat.lt_succ_of_lt (bindings id context bound)
  | release _ id release =>
      refine ⟨?_, pipelineNames, ?_, ?_⟩
      · simpa [setContext] using contextNames
      · simpa [setContext] using usual
      · intro other context bound
        simpa [setContext] using bindings other context bound
  | usual _ _ known =>
      exact ⟨contextNames, pipelineNames, fun id same => sound.of_knows (known id same), bindings⟩
  | binding _ id context _ same =>
      refine ⟨contextNames, ?_, usual, ?_⟩
      · simpa [bindPipeline, setPipeline] using pipelineNames
      · intro other otherContext bound
        change ((session.world.bindPipeline id context).pipeline other).context = _ at bound
        rw [bindPipeline, pipeline_setPipeline] at bound
        split at bound
        · obtain rfl := Option.some.inj bound
          exact usual context same
        · exact bindings other otherContext bound
  | newPipeline _ context known =>
      refine ⟨contextNames, ?_, usual, ?_⟩
      · intro name id stands
        have there := pipelineNames name id stands
        simpa using Nat.lt_succ_of_lt there
      · intro id other bound
        change (World.pipeline { session.world with
          pipelines := session.world.pipelines ++ [{ context }] } id).context = _ at bound
        rw [pipeline_concat] at bound
        split at bound
        · exact sound.of_knows (known other bound)
        · exact bindings id other bound
  | added _ id filter =>
      refine ⟨contextNames, ?_, usual, ?_⟩
      · simpa [setPipeline] using pipelineNames
      · intro other context bound
        change (World.pipeline (session.world.setPipeline id _) other).context = _ at bound
        rw [pipeline_setPipeline] at bound
        split at bound
        · exact bindings id context bound
        · exact bindings other context bound
  | contextName _ name id there =>
      refine ⟨?_, pipelineNames, usual, bindings⟩
      intro other otherId stands
      rw [Names.lookup_bind] at stands
      split at stands
      · exact Option.some.inj stands ▸ there
      · exact contextNames other otherId stands
  | pipelineName _ name id there =>
      refine ⟨contextNames, ?_, usual, bindings⟩
      intro other otherId stands
      rw [Names.lookup_bind] at stands
      split at stands
      · exact Option.some.inj stands ▸ there
      · exact pipelineNames other otherId stands
  | _ => exact ⟨contextNames, pipelineNames, usual, bindings⟩

/-! ## Steps and runs -/

/-- A step makes changes of the kinds of its operation. -/
theorem changes_step (session : Session) (operation : Operation) (script : List Outcome) :
    Changes (operation.kinds (session.ready script)) (session.ready script)
      (session.step operation script).2 :=
  operation.within_perform (session.ready script)

/-- What each step preserves is preserved by a run. -/
theorem run_preserves
    (property : Session -> Prop)
    (each : ∀ session operation script,
      property session -> property (session.step operation script).2)
    (operations : List (Operation × List Outcome))
    (session : Session)
    (holds : property session) :
    property (session.run operations).2 := by
  induction operations generalizing session with
  | nil => exact holds
  | cons entry rest inductionHypothesis =>
      obtain ⟨operation, script⟩ := entry
      exact inductionHypothesis _ (each session operation script holds)

/-- Every change keeps a session sound. -/
theorem Sound.changes
    {kinds : List Kind}
    (sound : session.Sound)
    (changes : Changes kinds session next) :
    next.Sound :=
  changes.preserves Sound (fun _ _ _ _ change sound => sound.change change) sound

theorem Sound.ready (sound : session.Sound) (script : List Outcome) :
    (session.ready script).Sound :=
  ⟨sound.contextNames, sound.pipelineNames, sound.usual, sound.bindings⟩

/-- So does every step. -/
theorem Sound.step
    (sound : session.Sound)
    (operation : Operation)
    (script : List Outcome) :
    (session.step operation script).2.Sound :=
  (sound.ready script).changes (changes_step session operation script)

/-- All sessions that can be reached are sound. -/
theorem sound_reached (operations : List (Operation × List Outcome)) :
    (reached operations).Sound :=
  run_preserves Sound (fun _ operation script sound => sound.step operation script) operations {}
    sound_empty

end Session
end Filtergraph
