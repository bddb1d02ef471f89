import Filtergraph.Proofs.Session.AskingReleases

/-!
# The releases that contexts know over runs

A context knows the release that it was told first, and no other one ever after.  Asking for it
makes calls until then, and none from then on.
-/

namespace Filtergraph

open World

namespace Session

open SessionAction

/-- In a step the release of a context is asked for in a world.  If it is known it is told at once,
and nothing happens; otherwise one call is made, and what it tells is known from then on.  No other
context learns anything. -/
structure ReleaseAsked
    (session : Session)
    (operation : Operation)
    (script : List Outcome)
    (id : ContextId)
    (asked : World) : Prop where
  before : ∀ other, (asked.context other).release = (session.world.context other).release
  goesOn : ∃ following : Option String -> SessionAction Reply,
    operation.perform.perform (session.ready script) =
      (act (Context.askRelease id) >>= following).perform
        { session.ready script with world := asked }
  known : ∀ release, (session.world.context id).release = some release ->
    (Context.askRelease id).perform asked = (.ok (some release), asked)
  unknown : (session.world.context id).release = none ->
    ∃ got, (Context.askRelease id).perform asked = (Context.heard asked.nextOutcome, got) ∧
      Called asked got [releaseCall (asked.context id).encoder]
  learned : ((session.step operation script).2.world.context id).release =
    (session.world.context id).release.or asked.nextOutcome.told
  others : ∀ other, other ≠ id ->
    ((session.step operation script).2.world.context other).release =
      (session.world.context other).release

/-- The worlds in which the release of a context is asked for in a step: one or none. -/
def stepAsks (session : Session) (id : ContextId) (operation : Operation) (script : List Outcome) :
    List World :=
  match operation.asksReleaseIn (session.ready script) with
  | some (context, asked) => if context = id then [asked] else []
  | none => []

/-- The worlds in which the release of a context is asked for in a run. -/
def releaseAsks (session : Session) (id : ContextId) : List (Operation × List Outcome) -> List World
  | [] => []
  | (operation, script) :: rest =>
    session.stepAsks id operation script ++ (session.step operation script).2.releaseAsks id rest

variable {session : Session}
variable {operation : Operation}
variable {script : List Outcome}
variable {id : ContextId}

theorem Sound.releaseAsked
    {asked : World}
    (sound : session.Sound)
    (asks : operation.asksReleaseIn (session.ready script) = some (id, asked)) :
    session.ReleaseAsked operation script id asked := by
  have asksAt := Operation.asksRelease_perform (sound.ready script) asks
  have learned := asksAt.release_eq
  obtain ⟨-, before, following, goesOn, -⟩ := asksAt
  refine ⟨before, ⟨following, goesOn⟩, ?_, ?_, ?_, ?_⟩
  · intro release known
    exact Context.askRelease_of_known ((before id).trans known)
  · intro unknown
    exact Context.askRelease_of_unknown ((before id).trans unknown)
  · exact (learned id).trans (if_pos rfl)
  · intro other different
    exact (learned other).trans (if_neg different)

/-- What a context knows after a step it knew before, or is told in it. -/
theorem release_step
    (sound : session.Sound)
    (operation : Operation)
    (script : List Outcome)
    (id : ContextId) :
    ((session.step operation script).2.world.context id).release =
      (session.world.context id).release.or
        ((session.stepAsks id operation script).findSome? fun asked => asked.nextOutcome.told) := by
  rw [stepAsks]
  cases asks : operation.asksReleaseIn (session.ready script) with
  | none => exact (Operation.keepsReleases_perform asks id).trans Option.or_none.symm
  | some place =>
      obtain ⟨context, asked⟩ := place
      have releaseAsked := sound.releaseAsked asks
      by_cases same : context = id
      · subst same
        rw [releaseAsked.learned]
        simp
      · rw [releaseAsked.others id (Ne.symm same)]
        simp [same]

/-- By induction on the run: a context knows what it was told first. -/
theorem release_run
    (sound : session.Sound)
    (operations : List (Operation × List Outcome))
    (id : ContextId) :
    ((session.run operations).2.world.context id).release =
      (session.world.context id).release.or
        ((session.releaseAsks id operations).findSome? fun asked => asked.nextOutcome.told) := by
  induction operations generalizing session with
  | nil => exact Option.or_none.symm
  | cons entry rest inductionHypothesis =>
      obtain ⟨operation, script⟩ := entry
      rw [run_cons, inductionHypothesis (sound.step operation script), release_step sound,
        releaseAsks, List.findSome?_append, Option.or_assoc]

/-- A release that is known is told without a call and without a note. -/
theorem step_release_of_known
    {name release : String}
    (stands : session.contexts.lookup name = some id)
    (known : (session.world.context id).release = some release)
    (script : List Outcome) :
    session.step (.release (some name)) script =
      (⟨.ok (.release (some release)), []⟩, session.ready script) := by
  have standsReady : (session.ready script).contexts.lookup name = some id := stands
  have told : (Context.askRelease id).perform (session.ready script).world =
      (.ok (some release), (session.ready script).world) := Context.askRelease_of_known known
  rw [step_eq, Operation.perform_release_of_some standsReady, perform_bind, perform_act, told]
  rfl

/-- Over every run of operations, with any outcomes of calls: a context knows the release that was
first told when it was asked for, and never another one.  While it is not known, asking for it makes
one call, and only what that call tells is kept; from then on asking makes no call and takes no
note.  What is asked of one context changes no other one.  A release is told by output in which the
mark stands directly in front of a word: it is the word behind the first such mark, up to the next
blank. -/
theorem releases_over_runs (operations : List (Operation × List Outcome)) :
    let session := reached operations
    (∀ id, (session.world.context id).release =
      (({} : Session).releaseAsks id operations).findSome? fun asked => asked.nextOutcome.told) ∧
    (∀ id release later,
      (session.world.context id).release = some release ->
      ((session.run later).2.world.context id).release = some release) ∧
    (∀ operation script id asked,
      operation.asksReleaseIn (session.ready script) = some (id, asked) ->
      session.ReleaseAsked operation script id asked) ∧
    (∀ operation script,
      operation.asksReleaseIn (session.ready script) = none ->
      ∀ id, ((session.step operation script).2.world.context id).release =
        (session.world.context id).release) ∧
    (∀ name id release script,
      session.contexts.lookup name = some id ->
      (session.world.context id).release = some release ->
      session.step (.release (some name)) script =
        (⟨.ok (.release (some release)), []⟩, session.ready script)) ∧
    (∀ (outcome : Outcome) release, outcome.told = some release ↔
      ∃ status output errors, outcome = .finished status output errors ∧
        TellsFirst (output.getD "").toList release.toList) ∧
    (∀ (outcome : Outcome) release, outcome.told = some release ->
      release ≠ "" ∧ ∀ c ∈ release.toList, Text.isBlank c = false) := by
  intro session
  have sound : session.Sound := sound_reached operations
  refine ⟨?_, ?_, ?_, ?_, ?_, ?_, ?_⟩
  · intro id
    exact release_run sound_empty operations id
  · intro id release later known
    rw [release_run sound, known, Option.some_or]
  · intro operation script id asked asks
    exact sound.releaseAsked asks
  · intro operation script unasked
    exact Operation.keepsReleases_perform unasked
  · intro name id release script stands known
    exact step_release_of_known stands known script
  · intro outcome release
    exact Outcome.told_eq_some_iff
  · intro outcome release told
    obtain ⟨status, output, errors, -, before, tells, -⟩ := Outcome.told_eq_some_iff.mp told
    refine ⟨?_, tells.solid⟩
    rintro rfl
    exact tells.nonempty rfl

/-- Output in which no word follows the first mark. -/
def lateRelease : String := "ffmpeg version \nffmpeg version 6.1 built"

/-- A context is asked twice for its release; the first call is stopped at its time limit, and the
second one ends with a failure but tells the release. -/
def askedTwice : List (Operation × List Outcome) :=
  [(.newContext "c" none none none none, []), (.release (some "c"), [.expired]),
    (.release (some "c"), [.finished (.int 1) (some lateRelease) none])]

/-- The session with that context, asked for its release in vain. -/
def askedInVain : Session where
  world := {
    contexts := [Context.usual]
    trace := [.call (releaseCall Context.defaultEncoder),
      .note defaultLogger (Context.undeterminedNote
        (expiryText Context.defaultEncoder))] }
  contexts := [("c", 0)]

theorem told_lateRelease :
    (Outcome.finished (.int 1) (some lateRelease) none).told = some "6.1" := by
  rfl

theorem reached_askedOnce : reached (askedTwice.take 2) = askedInVain := by
  rfl

/-- The release is known after the second call, and no more calls are made for it. -/
theorem releases_of_askedTwice :
    let session := reached askedTwice
    (session.world.context 0).release = some "6.1" ∧
    TellsFirst lateRelease.toList "6.1".toList ∧
    (∀ later, ((session.run later).2.world.context 0).release = some "6.1") ∧
    session.step (.release (some "c")) [] =
      (⟨.ok (.release (some "6.1")), []⟩, session.ready []) := by
  obtain ⟨-, -, asked, -, -, tells, -⟩ := releases_over_runs (askedTwice.take 2)
  obtain ⟨-, keeps, -, -, direct, -⟩ := releases_over_runs askedTwice
  have last : reached askedTwice = ((reached (askedTwice.take 2)).step (.release (some "c"))
      [.finished (.int 1) (some lateRelease) none]).2 := reached_concat (askedTwice.take 2) _ _
  have asks : Operation.asksReleaseIn
      ((reached (askedTwice.take 2)).ready [.finished (.int 1) (some lateRelease) none])
      (.release (some "c")) = some (0,
        (askedInVain.ready [.finished (.int 1) (some lateRelease) none]).world) := by
    rw [reached_askedOnce]
    rfl
  have known : ((reached askedTwice).world.context 0).release = some "6.1" := by
    rw [last, (asked _ _ 0 _ asks).learned, reached_askedOnce]
    exact told_lateRelease
  have named : (reached askedTwice).contexts.lookup "c" = some 0 := by
    rw [last, reached_askedOnce]
    rfl
  obtain ⟨_, _, _, same, first⟩ := (tells _ _).mp told_lateRelease
  cases same
  exact ⟨known, first, fun later => keeps 0 "6.1" later known, direct "c" 0 "6.1" [] named known⟩

end Session
end Filtergraph
