import Filtergraph.Proofs.World.Effects

/-!
# Commands that are run

A command whose arguments are all words is run by one call.  Its outcome decides the result, and
what is left behind besides are notes.
-/

namespace Filtergraph

open World

/-! ## Words -/

/-- Arguments are made of words exactly if all of them are texts. -/
theorem words_eq_ok_iff
    {position : Nat}
    {arguments : List Argument}
    {texts : List String} :
    words position arguments = .ok texts ↔ arguments = texts.map .text := by
  induction arguments generalizing position texts with
  | nil => simp [words, eq_comm]
  | cons argument rest inductionHypothesis =>
      cases argument with
      | text s =>
          rw [words]
          cases texts with
          | nil => cases words (position + 1) rest <;> simp [Except.map]
          | cons head tail =>
              have others : words (position + 1) rest = .ok tail ↔ rest = tail.map .text :=
                inductionHypothesis
              rw [List.map_cons, List.cons.injEq, ← others, Value.text.injEq]
              cases words (position + 1) rest <;> simp [Except.map]
      | _ => cases texts <;> simp [words]

/-- Arguments make a line exactly if all of them are texts. -/
theorem commandLine_eq_ok_iff
    {arguments : List Argument}
    {line : String} :
    commandLine arguments = .ok line ↔
      ∃ texts : List String, arguments = texts.map .text ∧ " ".intercalate texts = line := by
  have inWords (texts : List String) :
      arguments = texts.map .text ↔ words 0 arguments = .ok texts := words_eq_ok_iff.symm
  simp only [inWords, commandLine]
  cases words 0 arguments <;> simp [Except.map]

/-! ## Results -/

/-- The exit status of a call whose tool ran to its end, as the integer for which it is taken. -/
def Outcome.exitStatus? : Outcome -> Option Int
  | .finished status _ _ =>
    match Schema.integer status.value with
    | .accepted n => some n
    | .rejected _ => none
  | _ => none

/-- The result of a tool that ran to its end is there exactly if its status is an integer. -/
theorem resultOf_eq (status : Word) (output errors : Option String) :
    resultOf status output errors =
      match Schema.integer status.value with
      | .accepted n => .ok ⟨n, output.getD "", errors.getD ""⟩
      | .rejected faults =>
        .error (.rejected ⟨.result, faults.map fun fault =>
          { fault with path := .name "returncode" :: fault.path }⟩) := by
  have fields : Schema.checkResult (.table [("returncode", status.value),
      ("stdout", .text (output.getD "")), ("stderr", .text (errors.getD ""))]) =
      RunResult.mk <$> (Schema.integer status.value).under (.name "returncode")
        <*> .accepted (output.getD "") <*> .accepted (errors.getD "") := rfl
  rw [resultOf, fields]
  cases Schema.integer status.value <;> rfl

namespace Runner

/-- The call by which a command is run. -/
def commandCall (runner : Runner) (arguments : List Argument) : Call :=
  ⟨arguments, runner.limit, true⟩

/-- What the outcome of a command comes to. -/
def conclusion (runner : Runner) : Outcome -> Except Failure RunResult
  | .finished status output errors => resultOf status output errors
  | .expired => .error (.tool (.commandTimedOut runner.limit))
  | .missing reason => .error (.tool (.notFound .encoder reason))
  | .refused refusal message => .error (.refused refusal message)
  | .malformed message => .error (.wrongValue (.reported message))

/-- The notes on the outcome of a command. -/
def outcomeNotes : Outcome -> List Note
  | .finished status _ errors =>
    if isSuccess status then []
    else [⟨.debug, "FFmpeg exited with " ++ status.plain ++ ": " ++ errors.getD nullText⟩]
  | _ => []

/-- A command has a result exactly if it ended with a status, and the result tells that status. -/
theorem conclusion_status_iff
    {runner : Runner}
    {outcome : Outcome}
    {n : Int} :
    (∃ result, runner.conclusion outcome = .ok result ∧ result.status = n) ↔
      outcome.exitStatus? = some n := by
  cases outcome with
  | finished status output errors =>
      rw [conclusion, resultOf_eq, Outcome.exitStatus?]
      cases Schema.integer status <;> simp
  | _ => simp [conclusion, Outcome.exitStatus?]

/-- Drawing the conclusion leaves no more than notes. -/
theorem perform_conclude (runner : Runner) (outcome : Outcome) (world : World) :
    (runner.conclude outcome).perform world =
      (runner.conclusion outcome, world.afterNotes runner.logger (outcomeNotes outcome)) := by
  cases outcome with
  | finished status output errors =>
      cases success : isSuccess status <;>
        simp [conclude, conclusion, outcomeNotes, success, Action.perform_bind, afterNotes, record]
  | _ => simp [conclude, conclusion, outcomeNotes, afterNotes]

/-- The note on a command that is about to be run. -/
def runningNote (line : String) : Note :=
  ⟨.info, "Running FFmpeg: " ++ line⟩

/-- Words are run by one call; other arguments are not run at all. -/
theorem perform_run (runner : Runner) (arguments : List Argument) (world : World) :
    (runner.run arguments).perform world =
      match commandLine arguments with
      | .error failure => (.error failure, world)
      | .ok line =>
        (runner.conclusion world.nextOutcome,
          ((world.afterNotes runner.logger [runningNote line]).afterCall
            (runner.commandCall arguments)).afterNotes runner.logger
              (outcomeNotes world.nextOutcome)) := by
  rw [run, Action.perform_bind, Action.perform_ofExcept]
  cases commandLine arguments with
  | error failure => rfl
  | ok line =>
      dsimp only
      rw [Action.perform_bind, Action.perform_tell]
      dsimp only
      rw [Action.perform_bind, Action.perform_call]
      exact perform_conclude runner _ _

/-- Words are run by one call, and nothing but the trace and the script changes. -/
theorem run_words (runner : Runner) (texts : List String) (world : World) :
    ∃ after, (runner.run (texts.map .text)).perform world =
        (runner.conclusion world.nextOutcome, after) ∧
      Called world after [runner.commandCall (texts.map .text)] ∧ Alike world after := by
  have line : commandLine (texts.map .text) = .ok (" ".intercalate texts) :=
    commandLine_eq_ok_iff.mpr ⟨texts, rfl, rfl⟩
  rw [perform_run, line]
  refine ⟨_, rfl, ?_, rfl⟩
  have announced := called_afterNotes world runner.logger [runningNote (" ".intercalate texts)]
  exact (announced.trans (called_afterCall _ _)).trans (called_afterNotes _ _ _)

/-- The call of a command is none that asks a tool for its release. -/
theorem not_asksRelease_commandCall (runner : Runner) (arguments : List Argument) :
    ¬ (runner.commandCall arguments).AsksRelease := by
  rintro ⟨tool, same⟩
  have detached : true = false := congrArg Call.detached same
  cases detached

end Runner
end Filtergraph
