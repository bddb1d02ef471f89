import Filtergraph.Proofs.Session.Runs
import Filtergraph.Proofs.World.Making

/-!
# Actions that leave the default context alone

Most actions on a session neither read nor change which context is the default one, and make no
context.  This carries over to what is composed of them.
-/

namespace Filtergraph

/-- The session with another default context, or with none. -/
def Session.withDefault (session : Session) (usual : Option ContextId) : Session :=
  { session with world := session.world.withDefault usual }

namespace SessionAction

open World

variable {action : SessionAction α}
variable {next : α -> SessionAction β}
variable {session : Session}

/-- Performs an action on a session. -/
def perform (action : SessionAction α) (session : Session) : Except Failure α × Session :=
  action.run.run session

/-- What follows is performed in the session that is left, unless there is a failure. -/
theorem perform_bind
    (action : SessionAction α)
    (next : α -> SessionAction β)
    (session : Session) :
    (action >>= next).perform session =
      match action.perform session with
      | (.ok a, after) => (next a).perform after
      | (.error failure, after) => (.error failure, after) := by
  have split : (action >>= next).perform session =
      (match action session with
        | (outcome, after) => ExceptT.bindCont next outcome after) := rfl
  have same : action.perform session = action session := rfl
  rw [split, same]
  rcases action session with ⟨_ | a, after⟩ <;> rfl

theorem perform_act (action : Action α) (session : Session) :
    (act action).perform session =
      ((action.perform session.world).1,
        { session with world := (action.perform session.world).2 }) := rfl

/-- An action on the world has the outcome that it has in the session. -/
theorem perform_of_act
    {action : Action α}
    {outcome : Except Failure α}
    {after : Session}
    (performed : (act action).perform session = (outcome, after)) :
    action.perform session.world = (outcome, after.world) := by
  rw [perform_act] at performed
  obtain ⟨sameOutcome, rfl⟩ := Prod.mk.inj performed
  exact Prod.ext sameOutcome rfl

/-- Actions on the world are performed one after another, or in one go. -/
theorem act_bind (action : Action α) (next : α -> Action β) :
    act (action >>= next) = act action >>= fun a => act (next a) := by
  funext session
  change (act (action >>= next)).perform session =
    (act action >>= fun a => act (next a)).perform session
  rw [perform_bind, perform_act, perform_act, Action.perform_bind]
  rcases action.perform session.world with ⟨_ | a, after⟩ <;> rfl

theorem act_get (next : World -> Action α) :
    act (get >>= next) = get >>= fun session : Session => act (next session.world) := rfl

/-! ## Indifference -/

/-- In a session, an action does the same with any default context, and leaves it as it is. -/
def Indifferent (action : SessionAction α) (session : Session) : Prop :=
  ∀ usual, action.perform (session.withDefault usual) =
    ((action.perform session).1, (action.perform session).2.withDefault usual)

/-- The default context is the same afterwards. -/
theorem Indifferent.defaultContext_eq (indifferent : Indifferent action session) :
    (action.perform session).2.world.defaultContext = session.world.defaultContext := by
  have same : action.perform session =
      (_, (action.perform session).2.withDefault session.world.defaultContext) :=
    indifferent session.world.defaultContext
  rw [same]
  rfl

/-- What is indifferent may follow on what is indifferent. -/
theorem Indifferent.bind
    (first : Indifferent action session)
    (rest : ∀ a after, action.perform session = (.ok a, after) -> Indifferent (next a) after) :
    Indifferent (action >>= next) session := by
  intro usual
  rw [perform_bind, perform_bind, first usual]
  rcases performed : action.perform session with ⟨failure | a, after⟩
  · rfl
  · exact rest a after performed usual

/-- In a session, an action is indifferent to the default context and makes no context. -/
structure Inert (action : SessionAction α) (session : Session) : Prop where
  continues : Continues session.world (action.perform session).2.world
  indifferent : Indifferent action session

namespace Inert

protected theorem pure (a : α) (session : Session) :
    Inert (pure a : SessionAction α) session :=
  ⟨.refl _, fun _ => rfl⟩

protected theorem throw (failure : Failure) (session : Session) :
    Inert (throw failure : SessionAction α) session :=
  ⟨.refl _, fun _ => rfl⟩

protected theorem bind
    (first : Inert action session)
    (rest : ∀ a after, action.perform session = (.ok a, after) -> Inert (next a) after) :
    Inert (action >>= next) session := by
  refine ⟨?_, first.indifferent.bind fun a after performed => (rest a after performed).indifferent⟩
  have continues := first.continues
  rw [perform_bind]
  rcases performed : action.perform session with ⟨failure | a, after⟩
  · rwa [performed] at continues
  · rw [performed] at continues
    exact continues.trans (rest a after performed).continues

protected theorem map
    (first : Inert action session)
    (f : α -> β) :
    Inert (action >>= fun a => pure (f a)) session :=
  first.bind fun _ _ _ => .pure _ _

/-- What is done may depend on the session, but not on its default context. -/
protected theorem get_bind
    {next : Session -> SessionAction α}
    (inert : Inert (next session) session)
    (same : ∀ usual, next (session.withDefault usual) = next session) :
    Inert (get >>= next) session := by
  refine ⟨inert.continues, ?_⟩
  intro usual
  change (next (session.withDefault usual)).perform (session.withDefault usual) = _
  rw [same]
  exact inert.indifferent usual

/-- A change of the names leaves the world as it is. -/
protected theorem modify
    {change : Session -> Session}
    (session : Session)
    (sameWorld : (change session).world = session.world)
    (same : ∀ usual, change (session.withDefault usual) = (change session).withDefault usual) :
    Inert (modify change : SessionAction PUnit) session := by
  refine ⟨?_, ?_⟩
  · change Continues session.world (change session).world
    rw [sameWorld]
    exact .refl _
  · intro usual
    exact congrArg (Except.ok PUnit.unit, ·) (same usual)

/-- What an action on the world does decides about it. -/
protected theorem act
    {action : Action α}
    (continues : Continues session.world (action.perform session.world).2)
    (indifferent : ∀ usual, action.perform (session.world.withDefault usual) =
      ((action.perform session.world).1, (action.perform session.world).2.withDefault usual)) :
    Inert (act action) session := by
  refine ⟨continues, ?_⟩
  intro usual
  have same : (act action).perform (session.withDefault usual) =
      ((action.perform (session.world.withDefault usual)).1, { session with
        world := (action.perform (session.world.withDefault usual)).2 }) := rfl
  rw [same, indifferent]
  rfl

/-- Inert steps, one for each item, are inert. -/
protected theorem mapM
    {each : α -> SessionAction β}
    (inert : ∀ a session, Inert (each a) session)
    (items : List α)
    (session : Session) :
    Inert (items.mapM each) session := by
  induction items generalizing session with
  | nil => exact .pure _ _
  | cons head tail inductionHypothesis =>
      rw [List.mapM_cons]
      refine (inert head session).bind ?_
      intro b after _
      refine (inductionHypothesis after).bind ?_
      intro others last _
      exact .pure _ _

/-- A loop of inert steps is inert. -/
protected theorem forIn
    {each : α -> β -> SessionAction (ForInStep β)}
    (inert : ∀ a b session, Inert (each a b) session)
    (items : List α)
    (b : β)
    (session : Session) :
    Inert (forIn items b each) session := by
  induction items generalizing b session with
  | nil => exact .pure _ _
  | cons head tail inductionHypothesis =>
      rw [List.forIn_cons]
      refine (inert head b session).bind ?_
      intro step after _
      cases step with
      | done result => exact .pure _ _
      | yield result => exact inductionHypothesis result after

end Inert
end SessionAction
end Filtergraph
