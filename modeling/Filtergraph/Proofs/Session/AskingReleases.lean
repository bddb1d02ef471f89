import Filtergraph.Proofs.Session.Soundness
import Filtergraph.Proofs.World.ReleaseMarks

/-!
# Asking for releases

An operation asks for the release of one context at most.  What that context knows afterwards is
told by what it knew before and by the outcome of the call; what other contexts know stays.
-/

namespace Filtergraph

open World

/-- The release that the outcome of a call tells, if it tells one. -/
def Outcome.told (outcome : Outcome) : Option String :=
  match Context.heard outcome with
  | .ok release => release
  | .error _ => none

/-- A release is told by a call that ended and whose output tells it. -/
theorem Outcome.told_eq_some_iff
    {outcome : Outcome}
    {release : String} :
    outcome.told = some release ↔
      ∃ status output errors, outcome = .finished status output errors ∧
        TellsFirst (output.getD "").toList release.toList := by
  cases outcome with
  | finished status output errors =>
      rw [told, Context.heard]
      dsimp only
      rw [findRelease_eq_some_iff]
      simp
  | _ => simp [told, Context.heard]

namespace Session

/-- All contexts know the same releases. -/
def SameReleases (before after : Session) : Prop :=
  ∀ id, (after.world.context id).release = (before.world.context id).release

namespace SameReleases

variable {before between after : Session}

protected theorem refl (session : Session) : SameReleases session session :=
  fun _ => rfl

protected theorem trans
    (one : SameReleases before between)
    (two : SameReleases between after) :
    SameReleases before after :=
  fun id => (two id).trans (one id)

/-- Releases change only where one is heard. -/
theorem of_changes
    {kinds : List Kind}
    (changes : Changes kinds before after)
    (unheard : .release ∉ kinds) :
    SameReleases before after := by
  obtain ⟨fresh, extended, unknown⟩ := changes.contexts_extended unheard
  intro id
  rw [World.context, World.context, extended]
  rcases Nat.lt_or_ge id before.world.contexts.length with there | outside
  · rw [List.getElem?_append_left there]
  · rw [List.getElem?_append_right outside, List.getElem?_eq_none outside]
    cases found : fresh[id - before.world.contexts.length]? with
    | none => rfl
    | some context => exact unknown context (List.mem_of_getElem? found)

end SameReleases
end Session

/-- Changing a context that is not there changes nothing. -/
theorem World.context_setContext (world : World) (id other : ContextId) (context : Context) :
    (world.setContext id context).context other =
      if other = id ∧ id < world.contexts.length then context else world.context other := by
  rw [World.context, setContext, World.context, List.getElem?_set]
  by_cases same : id = other
  · subst other
    by_cases inside : id < world.contexts.length <;> simp [inside]
  · simp [same, Ne.symm same]

namespace Context

open SessionAction

variable {session : Session}
variable {id : ContextId}

/-- What a context knows once it has been asked for its release. -/
theorem release_askRelease
    {world : World}
    (there : id < world.contexts.length)
    (other : ContextId) :
    (((askRelease id).perform world).2.context other).release =
      if other = id then (world.context id).release.or world.nextOutcome.told
      else (world.context other).release := by
  cases known : (world.context id).release with
  | some release =>
      rw [askRelease_of_known known]
      split
      · next same => rw [same, known]; rfl
      · rfl
  | none =>
      rw [perform_askRelease]
      dsimp only
      rw [known, Outcome.told]
      have untold (same : other = id) : (world.context other).release = none := same ▸ known
      rcases heard world.nextOutcome with failure | _ | release
      · exact (ite_eq_right_iff.mpr fun same => (untold same).symm).symm
      · exact (ite_eq_right_iff.mpr fun same => (untold same).symm).symm
      · have kept := context_setContext (world.afterCall (releaseCall (world.context id).encoder))
          id other { world.context id with release := some release }
        have inside : id < (world.afterCall (releaseCall
          (world.context id).encoder)).contexts.length := there
        simp only [inside, and_true] at kept
        refine (congrArg Context.release kept).trans ?_
        split <;> rfl

end Context

/-- What an action obtains in a world and the world that it leaves, if it succeeds. -/
def Action.obtained (action : Action α) (world : World) : Option (α × World) :=
  match action.perform world with
  | (.ok a, after) => some (a, after)
  | (.error _, _) => none

/-- The context whose release a use asks for and the world in which it does, if it does. -/
def Use.asksReleaseIn (id : PipelineId) (world : World) : Use -> Option (ContextId × World)
  | .run _ _ _ _ => (Pipeline.obtainContext id).obtained world
  | _ => none

/-- The context whose release an operation asks for and the world in which it does, if it does. -/
def Operation.asksReleaseIn (session : Session) : Operation -> Option (ContextId × World)
  | .release (some name) => do
    let context ← session.contexts.lookup name
    return (context, session.world)
  | .release none => Context.obtainDefault.obtained session.world
  | operation => do
    let (id, use) ← operation.use? session
    use.asksReleaseIn id session.world

theorem Action.obtained_eq_some_iff
    {action : Action α}
    {world after : World}
    {a : α} :
    action.obtained world = some (a, after) ↔ action.perform world = (.ok a, after) := by
  rw [obtained]
  rcases action.perform world with ⟨failure | b, other⟩ <;> simp

theorem Action.obtained_eq_none_iff
    {action : Action α}
    {world : World} :
    action.obtained world = none ↔
      ∃ failure tried, action.perform world = (.error failure, tried) := by
  rw [obtained]
  rcases action.perform world with ⟨failure | b, other⟩ <;> simp

namespace SessionAction

open Session (Kind SameReleases)

variable {action : SessionAction α}
variable {next : α -> SessionAction β}
variable {session : Session}
variable {id : ContextId}
variable {asked : World}

/-- In a session, an action leaves alone what contexts know of releases. -/
def KeepsReleases (action : SessionAction α) (session : Session) : Prop :=
  SameReleases session (action.perform session).2

namespace KeepsReleases

/-- An action that hears no release keeps all of them. -/
theorem of_within
    {kinds : List Kind}
    (within : Within kinds action session)
    (unheard : .release ∉ kinds) :
    KeepsReleases action session :=
  .of_changes within unheard

/-- What keeps the releases may follow on what keeps them. -/
protected theorem bind
    (first : KeepsReleases action session)
    (rest : ∀ a after, KeepsReleases (next a) after) :
    KeepsReleases (action >>= next) session := by
  rw [KeepsReleases] at first ⊢
  rw [perform_bind]
  rcases performed : action.perform session with ⟨failure | a, after⟩
  all_goals rw [performed] at first
  · exact first
  · exact first.trans (rest a after)

end KeepsReleases

/-- An action asks for the release of a context that is there, in a world in which all contexts know
what they knew before, and then leaves alone what they know. -/
structure AsksReleaseAt
    (action : SessionAction α)
    (session : Session)
    (id : ContextId)
    (asked : World) : Prop where
  there : id < asked.contexts.length
  before : SameReleases session { session with world := asked }
  goesOn : ∃ following : Option String -> SessionAction α,
    action.perform session =
      (act (Context.askRelease id) >>= following).perform { session with world := asked } ∧
    ∀ release after, KeepsReleases (following release) after

namespace AsksReleaseAt

/-- Only what is performed counts. -/
theorem congr
    {other : SessionAction α}
    (same : action.perform session = other.perform session)
    (asks : AsksReleaseAt other session id asked) :
    AsksReleaseAt action session id asked := by
  obtain ⟨there, before, following, sameToo, keeps⟩ := asks
  exact ⟨there, before, following, same.trans sameToo, keeps⟩

/-- Asking a context for its release asks it where it is. -/
theorem askRelease
    (there : id < session.world.contexts.length) :
    AsksReleaseAt (act (Context.askRelease id)) session id session.world :=
  ⟨there, .refl _, pure, by rw [bind_pure], fun _ _ => .refl _⟩

/-- What follows keeps what has been told. -/
protected theorem bind
    (first : AsksReleaseAt action session id asked)
    (rest : ∀ a after, KeepsReleases (next a) after) :
    AsksReleaseAt (action >>= next) session id asked := by
  obtain ⟨there, before, following, same, keeps⟩ := first
  refine ⟨there, before, fun release => following release >>= next, ?_, ?_⟩
  · rw [← bind_assoc, perform_bind, perform_bind _ next, same]
  · intro release after
    exact (keeps release after).bind rest

/-- What comes before leaves alone what contexts know. -/
protected theorem after
    {a : α}
    {got : World}
    (performed : action.perform session = (.ok a, { session with world := got }))
    (same : SameReleases session { session with world := got })
    (rest : AsksReleaseAt (next a) { session with world := got } id asked) :
    AsksReleaseAt (action >>= next) session id asked := by
  obtain ⟨there, before, following, sameToo, keeps⟩ := rest
  refine ⟨there, same.trans before, following, ?_, keeps⟩
  rw [perform_bind, performed]
  exact sameToo

/-- The context that is asked knows what it is told, unless it knew a release before; all others
know what they knew. -/
theorem release_eq
    (asks : AsksReleaseAt action session id asked)
    (other : ContextId) :
    ((action.perform session).2.world.context other).release =
      if other = id then (session.world.context id).release.or asked.nextOutcome.told
      else (session.world.context other).release := by
  obtain ⟨there, before, following, same, keeps⟩ := asks
  have released := Context.release_askRelease there other
  rw [same, perform_bind, perform_act]
  rw [← before id, ← before other]
  rcases performed : (Context.askRelease id).perform asked with ⟨failure | release, after⟩
  all_goals rw [performed] at released
  · exact released
  · exact (keeps release { session with world := after } other).trans released

end AsksReleaseAt

section Sound

variable {got : World}
variable {pipeline : PipelineId}

/-- The default context that is obtained is there, and getting it tells no release. -/
theorem there_of_obtainDefault
    (sound : session.Sound)
    (obtained : Context.obtainDefault.perform session.world = (.ok id, got)) :
    id < got.contexts.length ∧ SameReleases session { session with world := got } := by
  have within := within_obtainDefault session
  rw [Within, perform_act, obtained] at within
  have soundToo := sound.changes within
  exact ⟨soundToo.usual id (Context.defaultContext_of_obtainDefault obtained),
    .of_changes within (by simp [Kind.obtaining])⟩

/-- So is the context that a pipeline gets. -/
theorem there_of_obtainContext
    (sound : session.Sound)
    (obtained : (Pipeline.obtainContext pipeline).perform session.world = (.ok id, got)) :
    id < got.contexts.length ∧ SameReleases session { session with world := got } := by
  have within := within_obtainContext pipeline session
  rw [Within, perform_act, obtained] at within
  have soundToo := sound.changes within
  refine ⟨?_, .of_changes within (Kind.release_not_mem_ifAsks _ _)⟩
  · cases Pipeline.settled_of_obtainContext obtained with
    | bound known => exact soundToo.bindings pipeline id known
    | absent _ known => exact soundToo.usual id known

end Sound

/-- A run asks the context of its pipeline, once it has that. -/
theorem asksRelease_run
    {got : World}
    {pipeline : PipelineId}
    (sound : session.Sound)
    (obtained : (Pipeline.obtainContext pipeline).perform session.world = (.ok id, got))
    (source : Source)
    (output : Argument)
    (format : Option Format)
    (strict : Bool) :
    AsksReleaseAt (act (Pipeline.run pipeline source output format strict)) session id got := by
  obtain ⟨there, same⟩ := there_of_obtainContext sound obtained
  have performed : (act (Pipeline.obtainContext pipeline)).perform session =
      (.ok id, { session with world := got }) := by
    rw [perform_act, obtained]
  rw [Pipeline.run_eq, act_bind]
  refine .after performed same ?_
  rw [act_bind]
  have asks : AsksReleaseAt (act (Context.askRelease id)) { session with world := got } id got :=
    .askRelease there
  refine asks.bind ?_
  intro release after
  rw [act_bind]
  refine KeepsReleases.bind ?_ ?_
  · refine .of_within (within_build source output format _ strict pipeline after) ?_
    simp [Kind.release_not_mem_ifAsks]
  · intro arguments last
    exact .of_within (within_execute id arguments last) (by simp)

end SessionAction

namespace Operation

open SessionAction
open Session (Kind)

variable {operation : Operation}
variable {session : Session}
variable {id : ContextId}
variable {asked : World}

theorem asksReleaseIn_of_isUse
    (isUse : operation.isUse)
    (session : Session) :
    operation.asksReleaseIn session =
      (operation.use? session).bind fun used => used.2.asksReleaseIn used.1 session.world := by
  cases operation <;> first | rfl | cases isUse

/-- A context that is named is asked. -/
theorem perform_release_of_some
    {name : String}
    (stands : session.contexts.lookup name = some id) :
    (perform (.release (some name))).perform session =
      (act (Context.askRelease id) >>= fun release => pure (Reply.release release)).perform
        session := by
  have reads : Reads (findOption Session.contexts (some name)) session _ :=
    reads_findOption (fun _ => rfl) (some name)
  have looked : lookedUpOption session.contexts (some name) = .ok (some id) := by
    rw [lookedUpOption, stands]
    rfl
  exact reads.perform_bind_ok looked

/-- Where the name is unknown, nothing is asked. -/
theorem perform_release_of_none
    {name : String}
    (stands : session.contexts.lookup name = none) :
    (perform (.release (some name))).perform session = (.error (.unknownName name), session) := by
  have reads : Reads (findOption Session.contexts (some name)) session _ :=
    reads_findOption (fun _ => rfl) (some name)
  have looked : lookedUpOption session.contexts (some name) = .error (.unknownName name) := by
    rw [lookedUpOption, stands]
    rfl
  exact reads.perform_bind_error looked

theorem perform_release_none (session : Session) :
    (perform (.release none)).perform session =
      (act Context.obtainDefault >>= fun id => act (Context.askRelease id) >>= fun release =>
        pure (Reply.release release)).perform session := rfl

/-- An operation asks for the release of a context where that is foreseen. -/
theorem asksRelease_perform
    (sound : session.Sound)
    (asks : operation.asksReleaseIn session = some (id, asked)) :
    AsksReleaseAt operation.perform session id asked := by
  cases operation with
  | release context =>
      cases context with
      | some name =>
          obtain ⟨context, stands, same⟩ := Option.bind_eq_some_iff.mp asks
          obtain ⟨rfl, rfl⟩ := Prod.mk.inj (Option.some.inj same)
          have there := sound.contextNames name context stands
          refine .congr (perform_release_of_some stands) ?_
          exact AsksReleaseAt.bind (.askRelease there) fun _ _ => .refl _
      | none =>
          have obtained := Action.obtained_eq_some_iff.mp asks
          obtain ⟨there, same⟩ := there_of_obtainDefault sound obtained
          have performed : (act Context.obtainDefault).perform session =
              (.ok id, { session with world := asked }) := by
            rw [perform_act, obtained]
          refine .congr (perform_release_none session) (.after performed same ?_)
          have asks : AsksReleaseAt (act (Context.askRelease id)) { session with world := asked } id
              asked := .askRelease there
          exact asks.bind fun _ _ => .refl _
  | showContext _ | compile _ _ _ _ | build _ _ _ _ _ _ | dryRun _ _ _ _ | run _ _ _ _ _ =>
      rw [asksReleaseIn_of_isUse rfl] at asks
      obtain ⟨⟨pipeline, use⟩, uses, asks⟩ := Option.bind_eq_some_iff.mp asks
      refine .congr (perform_of_use uses) ?_
      cases use with
      | run source output format strict =>
          have obtained := Action.obtained_eq_some_iff.mp asks
          exact (asksRelease_run sound obtained source output format strict).bind fun _ _ => .refl _
      | _ => cases asks
  | _ => cases asks

/-- A use of a pipeline that asks for no release keeps all of them. -/
theorem keepsReleases_use
    (isUse : operation.isUse)
    (unasked : operation.asksReleaseIn session = none) :
    KeepsReleases operation.perform session := by
  rw [asksReleaseIn_of_isUse isUse] at unasked
  cases uses : operation.use? session with
  | none =>
      refine .of_within (operation.within_perform session) ?_
      rw [kinds_of_isUse isUse, uses]
      simp
  | some used =>
      obtain ⟨pipeline, use⟩ := used
      rw [uses, Option.bind_some] at unasked
      cases use with
      | run source output format strict =>
          obtain ⟨failure, tried, fails⟩ := Action.obtained_eq_none_iff.mp unasked
          have within := within_obtainContext pipeline session
          rw [Within, perform_act, fails] at within
          rw [KeepsReleases, perform_of_use uses, Use.perform, perform_bind, perform_act,
            Pipeline.perform_run, fails]
          exact .of_changes within (Kind.release_not_mem_ifAsks _ _)
      | context | compile _ _ _ | build _ _ _ _ _ | dryRun _ _ _ =>
          refine .of_within (operation.within_perform session) ?_
          rw [kinds_of_use uses]
          simp [Use.kinds, Kind.release_not_mem_ifAsks]

/-- An operation that asks for no release leaves alone what contexts know. -/
theorem keepsReleases_perform
    (unasked : operation.asksReleaseIn session = none) :
    KeepsReleases operation.perform session := by
  cases operation with
  | release context =>
      cases context with
      | some name =>
          have stands : session.contexts.lookup name = none := by
            rw [asksReleaseIn] at unasked
            cases stands : session.contexts.lookup name with
            | none => rfl
            | some context =>
                rw [stands] at unasked
                cases unasked
          rw [KeepsReleases, perform_release_of_none stands]
          exact .refl _
      | none =>
          obtain ⟨failure, tried, fails⟩ := Action.obtained_eq_none_iff.mp unasked
          have within := within_obtainDefault session
          rw [Within, perform_act, fails] at within
          rw [KeepsReleases, perform_release_none, perform_bind, perform_act, fails]
          exact .of_changes within (by simp [Kind.obtaining])
  | showContext _ | compile _ _ _ _ | build _ _ _ _ _ _ | dryRun _ _ _ _ | run _ _ _ _ _ =>
      exact keepsReleases_use rfl unasked
  | add pipeline filters =>
      exact .of_within (within_perform _ session) (by simp [mem_kinds_add])
  | assign filter property value =>
      exact .of_within (within_perform _ session) (by simp [mem_kinds_assign])
  | _ => exact .of_within (within_perform _ session) (by simp [kinds, Kind.obtaining])

end Operation

end Filtergraph
