import Filtergraph.Proofs.World.Runs

/-!
# Refused calls

A tool that is missing, fails or takes too long is a failure of that tool, or nothing but a release
that cannot be told.  A tool that the operating system refuses to start is neither: the refusal
itself is the failure, and the refused call is the last one.
-/

namespace Filtergraph

open World

/-! ## Outcomes of calls -/

/-- A call ends with a status, at its time limit, or because the tool cannot be started. -/
inductive Outcome.Ordinary : Outcome -> Prop where
  | finished (status : Numeral) (output errors : Option String) :
      Ordinary (.finished (.int status.value status.short) output errors)
  | expired : Ordinary .expired
  | missing (reason : String) : Ordinary (.missing reason)
  | refused (refusal : Refusal) (message : String) : Ordinary (.refused refusal message)

/-- The failure that a refusal of the operating system is. -/
def Outcome.refusal? : Outcome -> Option Failure
  | .refused refusal message => some (.refused refusal message)
  | _ => none

/-- All calls to come are ordinary. -/
def World.Ordinary (world : World) : Prop :=
  ∀ outcome ∈ world.script, outcome.Ordinary

namespace World

variable {world after : World}
variable {made : List Call}

theorem Called.ordinary (called : Called world after made) (ordinary : world.Ordinary) :
    after.Ordinary := by
  intro outcome member
  rw [called.script] at member
  exact ordinary outcome (List.mem_of_mem_drop member)

theorem Called.outcomeAt_eq (called : Called world after made) (position : Nat) :
    after.outcomeAt position = world.outcomeAt (made.length + position) := by
  rw [outcomeAt, outcomeAt, called.script, List.getElem?_drop]

/-- A script that is used up goes on with ordinary outcomes. -/
theorem Ordinary.nextOutcome (ordinary : world.Ordinary) : world.nextOutcome.Ordinary := by
  rw [World.nextOutcome]
  cases script : world.script with
  | nil => exact .finished ⟨0, by decide⟩ (some "") (some "")
  | cons outcome rest => exact ordinary outcome (script ▸ List.mem_cons_self)

end World

/-- The failure is one of a tool. -/
inductive Failure.IsOfTool : Failure -> Prop where
  | tool (failure : ToolFailure) : IsOfTool (.tool failure)

/-- What an ordinary outcome is taken for: a refusal for its own failure, and anything else for a
result or an allowed failure. -/
structure Judges (allowed : Failure -> Prop) (judge : Outcome -> Except Failure α) : Prop where
  finished : ∀ (status : Numeral) (output errors : Option String) (failure : Failure),
    judge (.finished (.int status.value status.short) output errors) = .error failure ->
      allowed failure
  expired : ∀ failure, judge .expired = .error failure -> allowed failure
  missing : ∀ reason failure, judge (.missing reason) = .error failure -> allowed failure
  refused : ∀ refusal message,
    judge (.refused refusal message) = .error (.refused refusal message)

/-! ## Actions by the outcomes of their calls -/

/-- What an action comes to.  As long as no call is refused it has a result or one of the failures
that are allowed.  A call that is refused is its last one, and the refusal is its failure. -/
inductive Surfaces (allowed : Failure -> Prop) (world : World) :
    Except Failure α × World -> Prop where
  | started
      {outcome : Except Failure α}
      {after : World}
      {made : List Call}
      (called : Called world after made)
      (starts : ∀ position < made.length, (world.outcomeAt position).refusal? = none)
      (allows : ∀ failure, outcome = .error failure -> allowed failure) :
      Surfaces allowed world (outcome, after)
  | refused
      {failure : Failure}
      {after : World}
      {made : List Call}
      {last : Call}
      (called : Called world after (made ++ [last]))
      (starts : ∀ position < made.length, (world.outcomeAt position).refusal? = none)
      (refuses : (world.outcomeAt made.length).refusal? = some failure) :
      Surfaces allowed world (.error failure, after)

namespace Surfaces

variable {allowed allowedToo : Failure -> Prop}
variable {world after : World}
variable {outcome : Except Failure α}

/-- More failures may be allowed. -/
theorem mono
    {performed : Except Failure α × World}
    (surfaces : Surfaces allowed world performed)
    (implies : ∀ failure, allowed failure -> allowedToo failure) :
    Surfaces allowedToo world performed := by
  cases surfaces with
  | started called starts allows =>
      exact .started called starts fun failure fails => implies failure (allows failure fails)
  | refused called starts refuses => exact .refused called starts refuses

/-- Where nothing is called, nothing is refused. -/
theorem of_no_call
    (called : Called world after [])
    (allows : ∀ failure, outcome = .error failure -> allowed failure) :
    Surfaces allowed world (outcome, after) :=
  .started called (fun _ inside => absurd inside (Nat.not_lt_zero _)) allows

/-- A single call decides by its outcome. -/
theorem of_call
    {judge : Outcome -> Except Failure α}
    {call : Call}
    (judges : Judges allowed judge)
    (ordinary : world.Ordinary)
    (called : Called world after [call]) :
    Surfaces allowed world (judge world.nextOutcome, after) := by
  have first : world.outcomeAt 0 = world.nextOutcome := (Called.refl world).nextOutcome_eq.symm
  have next := ordinary.nextOutcome
  generalize world.nextOutcome = outcome at first next ⊢
  have starts (started : outcome.refusal? = none) :
      ∀ position < 1, (world.outcomeAt position).refusal? = none := by
    intro position inside
    obtain rfl := Nat.lt_one_iff.mp inside
    rw [first, started]
  cases next with
  | finished status output errors =>
      exact .started called (starts rfl) (judges.finished status output errors)
  | expired => exact .started called (starts rfl) judges.expired
  | missing reason => exact .started called (starts rfl) (judges.missing reason)
  | refused refusal message =>
      have behindNone : Called world after ([] ++ [call]) := called
      rw [judges.refused]
      refine .refused behindNone (fun _ inside => absurd inside (Nat.not_lt_zero _)) ?_
      rw [List.length_nil, first]
      rfl

/-- What follows an action counts only if no call of that action was refused. -/
theorem bind
    {action : Action α}
    {next : α -> Action β}
    (first : Surfaces allowed world (action.perform world))
    (second : ∀ a after made, action.perform world = (.ok a, after) ->
      Called world after made -> Surfaces allowed after ((next a).perform after)) :
    Surfaces allowed world ((action >>= next).perform world) := by
  rw [Action.perform_bind]
  rcases performed : action.perform world with ⟨failure | a, between⟩
  · rw [performed] at first
    cases first with
    | started called starts allows =>
        refine .started called starts fun raised same => ?_
        exact allows raised (congrArg _ (Except.error.inj same))
    | refused called starts refuses => exact .refused called starts refuses
  · rw [performed] at first
    cases first with
    | @started _ _ made called starts _ =>
        -- the calls of the second part come behind those of the first one
        have startsBoth {more : List Call}
            (startsToo : ∀ position < more.length, (between.outcomeAt position).refusal? = none) :
            ∀ position < (made ++ more).length, (world.outcomeAt position).refusal? = none := by
          intro position inside
          by_cases early : position < made.length
          · exact starts position early
          · obtain ⟨later, rfl⟩ := Nat.exists_eq_add_of_le (Nat.le_of_not_lt early)
            rw [← called.outcomeAt_eq]
            exact startsToo later (by simpa using inside)
        have then_ := second a between made performed called
        dsimp only
        generalize (next a).perform between = performedToo at then_ ⊢
        cases then_ with
        | started calledToo startsToo allows =>
            exact .started (called.trans calledToo) (startsBoth startsToo) allows
        | @refused failure _ more last calledToo startsToo refuses =>
            have calledBoth := called.trans calledToo
            rw [← List.append_assoc] at calledBoth
            refine .refused calledBoth (startsBoth startsToo) ?_
            rwa [List.length_append, ← called.outcomeAt_eq]

end Surfaces

/-! ## Contexts -/

namespace Context

variable {world : World}

theorem judges_verification (tool : Tool) : Judges Failure.IsOfTool (verification tool) where
  finished := by
    intro status output errors failure fails
    rw [verification] at fails
    split at fails
    · cases fails
    · cases fails
      exact .tool _
  expired := by
    rintro failure ⟨⟩
    exact .tool _
  missing := by
    rintro reason failure ⟨⟩
    exact .tool _
  refused := fun _ _ => rfl

/-- Verifying a tool fails with a failure of a tool, unless the call is refused. -/
theorem surfaces_verifyTool
    (ordinary : world.Ordinary)
    (tool : Tool)
    (path : Word) :
    Surfaces Failure.IsOfTool world ((verifyTool tool path).perform world) := by
  rw [perform_verifyTool]
  exact .of_call (judges_verification tool) ordinary (called_afterCall world _)

/-- Making a context fails with a failure of a tool, unless one of its two calls is refused. -/
theorem surfaces_create
    (ordinary : world.Ordinary)
    (encoder prober : Word)
    (logger : String)
    (runner : Runner) :
    Surfaces Failure.IsOfTool world ((create encoder prober logger runner).perform world) := by
  refine .bind (surfaces_verifyTool ordinary .encoder encoder) ?_
  intro _ encoderAsked _ _ called
  refine .bind (surfaces_verifyTool (called.ordinary ordinary) .prober prober) ?_
  intro _ proberAsked _ _ _
  refine .of_no_call ?_ nofun
  exact (called_afterNotes proberAsked logger [verifiedNote]).unchanged rfl rfl

theorem surfaces_obtainDefault (ordinary : world.Ordinary) :
    Surfaces Failure.IsOfTool world (obtainDefault.perform world) := by
  refine .bind (.of_no_call (.refl world) nofun) ?_
  rintro _ _ _ ⟨⟩ -
  cases world.defaultContext with
  | some id => exact .of_no_call (.refl world) nofun
  | none =>
      refine .bind (surfaces_create ordinary _ _ _ _) ?_
      intro id made _ _ _
      exact .of_no_call (.of_eq rfl rfl) nofun

theorem judges_heard : Judges (fun _ => False) heard where
  finished := by
    rintro _ _ _ _ ⟨⟩
  expired := by
    rintro _ ⟨⟩
  missing := by
    rintro _ _ ⟨⟩
  refused := fun _ _ => rfl

/-- Asking for a release never fails, unless the call is refused. -/
theorem surfaces_askRelease
    (ordinary : world.Ordinary)
    (id : ContextId) :
    Surfaces (fun _ => False) world ((askRelease id).perform world) := by
  cases known : (world.context id).release with
  | some release =>
      rw [askRelease_of_known known]
      exact .of_no_call (.refl world) nofun
  | none =>
      obtain ⟨got, performed, called⟩ := askRelease_of_unknown known
      rw [performed]
      exact .of_call judges_heard ordinary called

end Context

/-! ## Commands -/

namespace Runner

variable {world : World}

theorem judges_conclusion (runner : Runner) : Judges Failure.IsOfTool runner.conclusion where
  finished := by
    intro status output errors failure fails
    rw [conclusion, resultOf_eq] at fails
    cases fails
  expired := by
    rintro failure ⟨⟩
    exact .tool _
  missing := by
    rintro reason failure ⟨⟩
    exact .tool _
  refused := fun _ _ => rfl

/-- Running words fails with a failure of a tool, unless the call is refused. -/
theorem surfaces_run
    (ordinary : world.Ordinary)
    (runner : Runner)
    (texts : List String) :
    Surfaces Failure.IsOfTool world ((runner.run (texts.map .text)).perform world) := by
  obtain ⟨after, performed, called, -⟩ := runner.run_words texts world
  rw [performed]
  exact .of_call runner.judges_conclusion ordinary called

end Runner
end Filtergraph
