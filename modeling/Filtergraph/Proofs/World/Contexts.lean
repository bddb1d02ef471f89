import Filtergraph.Proofs.World.Effects

/-!
# What the actions on contexts do

One statement for each action on contexts says all that it can do.  None of them calls anything but
a tool for its release, and none changes filters or the filters of pipelines.
-/

namespace Filtergraph
namespace Context

open World

/-- What the verification of a tool comes to, by the outcome of its call. -/
def verification (tool : Tool) : Outcome -> Except Failure Unit
  | .finished status _ errors =>
    if isSuccess status then .ok () else .error (.tool (.notWorking tool errors))
  | .expired => .error (.tool .verificationTimedOut)
  | .missing reason => .error (.tool (.notFound .encoder reason))
  | .refused refusal message => .error (.refused refusal message)
  | .malformed message => .error (.wrongValue (.reported message))

/-- A tool is verified by one call. -/
@[simp] theorem perform_verifyTool (tool : Tool) (path : Word) (world : World) :
    (verifyTool tool path).perform world =
      (verification tool world.nextOutcome, world.afterCall (releaseCall path)) := by
  rw [verifyTool, Action.perform_bind, Action.perform_call, nextOutcome]
  cases world.script.head?.getD .silent with
  | finished status output errors =>
      cases success : isSuccess status <;> simp [verification, success, afterCall]
  | expired => rfl
  | missing reason => rfl
  | refused refusal message => rfl
  | malformed message => rfl

/-- The note that the tools of a context work. -/
def verifiedNote : Note :=
  ⟨.debug, "FFmpeg binaries verified successfully"⟩

/-- A context comes into existence after its tools have been verified, the encoding tool first;
a failure of either is the failure of the whole. -/
theorem perform_create
    (encoder prober : Word)
    (logger : String)
    (runner : Runner)
    (world : World) :
    (create encoder prober logger runner).perform world =
      let encoderAsked := world.afterCall (releaseCall encoder)
      let proberAsked := encoderAsked.afterCall (releaseCall prober)
      match verification .encoder world.nextOutcome with
      | .error failure => (.error failure, encoderAsked)
      | .ok () =>
        match verification .prober encoderAsked.nextOutcome with
        | .error failure => (.error failure, proberAsked)
        | .ok () =>
          (.ok world.contexts.length,
            (proberAsked.afterNotes logger [verifiedNote]).addContext
              { encoder, prober, logger, runner }) := by
  rw [create, Action.perform_bind, perform_verifyTool]
  cases verification .encoder world.nextOutcome with
  | error failure => rfl
  | ok _ =>
      simp only [Action.perform_bind, perform_verifyTool]
      cases verification .prober (world.afterCall (releaseCall encoder)).nextOutcome with
      | error failure => rfl
      | ok _ => rfl

theorem prepares_create
    (encoder prober : Word)
    (logger : String)
    (runner : Runner)
    (world : World) :
    Prepares world ((create encoder prober logger runner).perform world).2 := by
  have encoderAsked := prepares_afterCall world encoder
  have proberAsked := prepares_afterCall (world.afterCall (releaseCall encoder)) prober
  rw [perform_create]
  dsimp only
  split
  · exact encoderAsked
  · split
    · exact encoderAsked.trans proberAsked
    · exact ((encoderAsked.trans proberAsked).trans (prepares_afterNotes _ _ _)).trans
        (prepares_addContext _ _)

/-- The default context is the one there is, or else one that is made with the usual tools. -/
theorem perform_obtainDefault (world : World) :
    obtainDefault.perform world =
      match world.defaultContext with
      | some id => (.ok id, world)
      | none =>
        match (create defaultEncoder defaultProber defaultLogger ⟨defaultLogger, .null⟩).perform
            world with
        | (.ok id, made) => (.ok id, { made with defaultContext := some id })
        | (.error failure, tried) => (.error failure, tried) := by
  rw [obtainDefault, Action.perform_bind, Action.perform_get]
  dsimp only
  cases world.defaultContext with
  | some id => rfl
  | none =>
      simp only [Action.perform_bind, Action.perform_modify, Action.perform_pure]
      rcases (create defaultEncoder defaultProber defaultLogger ⟨defaultLogger, .null⟩).perform
        world with ⟨outcome, made⟩
      cases outcome <;> rfl

theorem prepares_obtainDefault (world : World) :
    Prepares world (obtainDefault.perform world).2 := by
  have created := prepares_create defaultEncoder defaultProber defaultLogger
    ⟨defaultLogger, .null⟩ world
  rw [perform_obtainDefault]
  split
  · exact .refl world
  · split
    · next id made performed =>
      rw [performed] at created
      exact created.trans (.of_called_nil rfl rfl (.of_eq rfl rfl))
    · next failure tried performed =>
      rw [performed] at created
      exact created

/-- Once the default context has been obtained it is the default context. -/
theorem defaultContext_of_obtainDefault
    {world after : World}
    {id : ContextId}
    (obtained : obtainDefault.perform world = (.ok id, after)) :
    after.defaultContext = some id := by
  rw [perform_obtainDefault] at obtained
  split at obtained
  · next known =>
    obtain ⟨sameId, rfl⟩ := Prod.mk.inj obtained
    rw [known, Except.ok.inj sameId]
  · split at obtained
    · obtain ⟨sameId, rfl⟩ := Prod.mk.inj obtained
      exact congrArg some (Except.ok.inj sameId)
    · cases (Prod.mk.inj obtained).1

/-! ## The trace does not matter -/

theorem perform_create_withTrace
    (encoder prober : Word)
    (logger : String)
    (runner : Runner)
    (world : World)
    (trace : List Event) :
    ∃ later, (create encoder prober logger runner).perform (world.withTrace trace) =
      (((create encoder prober logger runner).perform world).1,
        ((create encoder prober logger runner).perform world).2.withTrace later) := by
  have sameNext : (world.withTrace trace).nextOutcome = world.nextOutcome := rfl
  have sameSecond : ((world.withTrace trace).afterCall (releaseCall encoder)).nextOutcome =
      (world.afterCall (releaseCall encoder)).nextOutcome := rfl
  simp only [perform_create, sameNext, sameSecond]
  cases verification .encoder world.nextOutcome with
  | error failure => exact ⟨_, rfl⟩
  | ok _ =>
      dsimp only
      cases verification .prober (world.afterCall (releaseCall encoder)).nextOutcome with
      | error failure => exact ⟨_, rfl⟩
      | ok _ => exact ⟨_, rfl⟩

/-- What has been done before has no effect on the default context. -/
theorem perform_obtainDefault_withTrace (world : World) (trace : List Event) :
    ∃ later, obtainDefault.perform (world.withTrace trace) =
      ((obtainDefault.perform world).1, (obtainDefault.perform world).2.withTrace later) := by
  obtain ⟨later, created⟩ := perform_create_withTrace defaultEncoder defaultProber defaultLogger
    ⟨defaultLogger, .null⟩ world trace
  have sameDefault : (world.withTrace trace).defaultContext = world.defaultContext := rfl
  rw [perform_obtainDefault, perform_obtainDefault, sameDefault, created]
  cases world.defaultContext with
  | some id => exact ⟨trace, rfl⟩
  | none =>
      rcases (create defaultEncoder defaultProber defaultLogger ⟨defaultLogger, .null⟩).perform
        world with ⟨failure | id, made⟩
      · exact ⟨later, rfl⟩
      · exact ⟨later, rfl⟩

/-! ## The release of the encoding tool -/

/-- What the outcome of a call tells of the release. -/
def heard : Outcome -> Except Failure (Option String)
  | .finished _ output _ => .ok (findRelease? (output.getD "").toList)
  | .expired => .ok none
  | .missing _ => .ok none
  | .refused refusal message => .error (.refused refusal message)
  | .malformed message => .error (.wrongValue (.reported message))

/-- The note on a release that cannot be asked for. -/
def undeterminedNote (reason : String) : Note :=
  ⟨.warning, "Could not determine FFmpeg version: " ++ reason⟩

/-- The note on the release that output tells, or on output that tells none. -/
def outputNote : Option String -> Note
  | some release => ⟨.debug, "FFmpeg version: " ++ release⟩
  | none => ⟨.warning, "Could not parse FFmpeg version output"⟩

/-- The notes on the outcome of a call for the release of a tool. -/
def releaseNotes (tool : Word) : Outcome -> List Note
  | .finished _ output _ => [outputNote (findRelease? (output.getD "").toList)]
  | .expired => [undeterminedNote (expiryText tool)]
  | .missing reason => [undeterminedNote reason]
  | .refused _ _ => []
  | .malformed _ => []

/-- The world in which the release of a context is known, if one was heard. -/
def keepRelease (id : ContextId) (world : World) : Except Failure (Option String) -> World
  | .ok (some release) => world.setContext id { world.context id with release := some release }
  | _ => world

theorem prepares_keepRelease
    (id : ContextId)
    (world : World)
    (release : Except Failure (Option String)) :
    Prepares world (keepRelease id world release) := by
  rw [keepRelease.eq_def]
  split
  · exact prepares_setContext _ _ _
  · exact .refl world

/-- A release that is known is not asked for; otherwise one call is made, and what it tells is
kept. -/
theorem perform_askRelease (id : ContextId) (world : World) :
    (askRelease id).perform world =
      let context := world.context id
      let call := releaseCall context.encoder
      let release := heard world.nextOutcome
      match context.release with
      | some known => (.ok (some known), world)
      | none =>
        (release, (keepRelease id (world.afterCall call) release).afterNotes context.logger
          (releaseNotes context.encoder world.nextOutcome)) := by
  rw [askRelease, Action.perform_bind, Action.perform_get]
  dsimp only
  cases (world.context id).release with
  | some known => rfl
  | none =>
      rw [Action.perform_bind, Action.perform_call, nextOutcome]
      cases world.script.head?.getD .silent with
      | finished status output errors =>
          dsimp only [heard, releaseNotes]
          rw [learnRelease, Action.perform_bind, Action.perform_get]
          dsimp only
          cases findRelease? (output.getD "").toList <;> rfl
      | expired => rfl
      | missing reason => rfl
      | refused refusal message =>
          simp [heard, releaseNotes, keepRelease, afterCall, afterNotes]
      | malformed message =>
          simp [heard, releaseNotes, keepRelease, afterCall, afterNotes]

theorem prepares_askRelease (id : ContextId) (world : World) :
    Prepares world ((askRelease id).perform world).2 := by
  rw [perform_askRelease]
  dsimp only
  split
  · exact .refl world
  · have asked := prepares_afterCall world (world.context id).encoder
    exact (asked.trans (prepares_keepRelease _ _ _)).trans (prepares_afterNotes _ _ _)

/-- A release that is known is told at once, and nothing happens. -/
theorem askRelease_of_known
    {world : World}
    {id : ContextId}
    {release : String}
    (known : (world.context id).release = some release) :
    (askRelease id).perform world = (.ok (some release), world) := by
  rw [perform_askRelease]
  dsimp only
  rw [known]

theorem called_keepRelease
    (id : ContextId)
    (world : World)
    (release : Except Failure (Option String)) :
    Called world (keepRelease id world release) [] := by
  rcases release with failure | _ | release <;> exact .of_eq rfl rfl

/-- A release that is not known is asked for by one call. -/
theorem askRelease_of_unknown
    {world : World}
    {id : ContextId}
    (unknown : (world.context id).release = none) :
    ∃ got, (askRelease id).perform world = (heard world.nextOutcome, got) ∧
      Called world got [releaseCall (world.context id).encoder] := by
  rw [perform_askRelease]
  dsimp only
  rw [unknown]
  refine ⟨_, rfl, ?_⟩
  have called := called_afterCall world (releaseCall (world.context id).encoder)
  have kept := called_keepRelease id
    (world.afterCall (releaseCall (world.context id).encoder)) (heard world.nextOutcome)
  exact (called.trans kept).trans (called_afterNotes _ _ _)

/-- Asking for a release binds nothing. -/
theorem sameBindings_askRelease (id : ContextId) (world : World) :
    SameBindings world ((askRelease id).perform world).2 := by
  rw [perform_askRelease]
  dsimp only
  split
  · exact ⟨rfl, rfl⟩
  · rw [keepRelease.eq_def]
    split <;> exact ⟨rfl, rfl⟩

end Context
end Filtergraph
