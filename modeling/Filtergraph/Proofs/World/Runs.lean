import Filtergraph.Proofs.World.Commands
import Filtergraph.Proofs.World.Pipelines

/-!
# Runs of pipelines

A run prepares a command and then calls it.  Whatever fails in the preparation keeps the command
from being called; once it is prepared, it is called once, after all other calls, and the run has a
result exactly if it ends with status zero.
-/

namespace Filtergraph
namespace Pipeline

open World

/-! ## Running a command that is built -/

/-- What the outcome of a command comes to in a run. -/
def execution (runner : Runner) (outcome : Outcome) : Except Failure RunResult :=
  match runner.conclusion outcome with
  | .ok result =>
    if result.succeeded then .ok result else .error (.tool (.commandFailed result.errors))
  | .error failure => .error failure

/-- A run has a result exactly if its command ended with status zero. -/
theorem execution_ok_iff
    {runner : Runner}
    {outcome : Outcome} :
    (∃ result, execution runner outcome = .ok result) ↔ outcome.exitStatus? = some 0 := by
  rw [← runner.conclusion_status_iff, execution]
  cases runner.conclusion outcome with
  | error failure => simp
  | ok result => by_cases success : result.status = 0 <;> simp [RunResult.succeeded, success]

/-- The last part of a run: a command is run, and one that does not succeed is a failure. -/
def execute (context : ContextId) (arguments : List Argument) : Action RunResult := do
  let result ← ((← get).context context).runner.run arguments
  if !result.succeeded then throw (.tool (.commandFailed result.errors))
  Action.tell ((← get).context context).logger .info "FFmpeg completed successfully"
  return result

/-- The note on a command that succeeded. -/
def completedNote : Note :=
  ⟨.info, "FFmpeg completed successfully"⟩

/-- Words are run by one call, which leaves the world as it is but for the trace and the script. -/
theorem perform_execute (context : ContextId) (texts : List String) (world : World) :
    ∃ after, (execute context (texts.map .text)).perform world =
        (execution (world.context context).runner world.nextOutcome, after) ∧
      Called world after [(world.context context).runner.commandCall (texts.map .text)] ∧
      Alike world after := by
  obtain ⟨called, performed, calls, alike⟩ :=
    (world.context context).runner.run_words texts world
  have sameContext := congrFun alike.context_eq context
  rw [execute, Action.perform_bind, Action.perform_get]
  dsimp only
  rw [Action.perform_bind, performed, execution]
  cases (world.context context).runner.conclusion world.nextOutcome with
  | error failure => exact ⟨called, rfl, calls, alike⟩
  | ok result =>
      cases success : result.succeeded with
      | false => exact ⟨called, by simp [success], calls, alike⟩
      | true =>
          refine ⟨called.afterNotes (world.context context).logger [completedNote], ?_, ?_, ?_⟩
          · rw [← sameContext]
            simp only [success]
            rfl
          · exact calls.trans (called_afterNotes _ _ _)
          · rw [alike]
            rfl

/-- Arguments that are no words are not run. -/
theorem perform_execute_of_error
    {arguments : List Argument}
    {failure : Failure}
    (noLine : commandLine arguments = .error failure)
    (context : ContextId)
    (world : World) :
    (execute context arguments).perform world = (.error failure, world) := by
  rw [execute, Action.perform_bind, Action.perform_get]
  dsimp only
  rw [Action.perform_bind, Runner.perform_run, noLine]

theorem run_eq
    (id : PipelineId)
    (source : Source)
    (output : Argument)
    (format : Option Format)
    (strict : Bool) :
    run id source output format strict = (do
      let context ← obtainContext id
      let release ← Context.askRelease context
      let arguments ← build id source output format (.ofOption .text release) strict
      execute context arguments) := rfl

/-- A run gets the context, asks for the release and builds the command before it runs it. -/
theorem perform_run
    (id : PipelineId)
    (source : Source)
    (output : Argument)
    (format : Option Format)
    (strict : Bool)
    (world : World) :
    (run id source output format strict).perform world =
      match (obtainContext id).perform world with
      | (.error failure, tried) => (.error failure, tried)
      | (.ok context, bound) =>
        match (Context.askRelease context).perform bound with
        | (.error failure, asked) => (.error failure, asked)
        | (.ok release, asked) =>
          match (build id source output format (.ofOption .text release) strict).perform asked with
          | (.error failure, built) => (.error failure, built)
          | (.ok arguments, built) => (execute context arguments).perform built := by
  rw [run_eq, Action.perform_bind]
  rcases (obtainContext id).perform world with ⟨_ | context, bound⟩
  · rfl
  · dsimp only
    rw [Action.perform_bind]
    rcases (Context.askRelease context).perform bound with ⟨_ | release, asked⟩
    · rfl
    · dsimp only
      rw [Action.perform_bind]
      rcases (build id source output format (.ofOption .text release) strict).perform asked with
        ⟨_ | arguments, built⟩ <;> rfl

/-! ## Preparation -/

/-- All that has to succeed before the command of a run is called, with what comes of it. -/
structure Preparation
    (world : World)
    (id : PipelineId)
    (source : Source)
    (output : Argument)
    (format : Option Format)
    (strict : Bool) where
  /-- The context of the pipeline. -/
  context : ContextId
  /-- The world in which the pipeline has its context. -/
  bound : World
  obtained : (obtainContext id).perform world = (.ok context, bound)
  /-- The release of the encoding tool, if it can be told. -/
  release : Option String
  /-- The world in which the release has been asked for. -/
  asked : World
  told : (Context.askRelease context).perform bound = (.ok release, asked)
  /-- The filters in order. -/
  inOrder : List FilterId
  arranged : Filter.arrange world.filter (world.pipeline id).filters = .ok inOrder
  checked : (Filter.releaseCheck (.ofOption .text release) strict
    (inOrder.map world.filter)).outcome = .ok ()
  /-- What the filters contribute, one part for each. -/
  parts : List (List Argument)
  contributed : Filter.Contribute (source.contribution format) (inOrder.map world.filter) parts
  /-- The codec arguments. -/
  codec : List Argument
  encoded : codecArguments (source.outputFormat format) = .ok codec
  /-- The words of the command. -/
  words : List String
  joined : [((asked.context context).encoder : Argument), .text "-y"] ++ source.inputArguments ++
    parts.flatten ++ codec ++ [output] = words.map .text

namespace Preparation

variable {world after : World}
variable {id : PipelineId}
variable {source : Source}
variable {output : Argument}
variable {format : Option Format}
variable {strict : Bool}

/-- No more than a preparation has been done when the release has been asked for. -/
theorem prepares (prepared : Preparation world id source output format strict) :
    Prepares world prepared.asked := by
  have binding := prepares_obtainContext id world
  have asking := Context.prepares_askRelease prepared.context prepared.bound
  rw [prepared.obtained] at binding
  rw [prepared.told] at asking
  exact binding.trans asking

theorem settled (prepared : Preparation world id source output format strict) :
    Settled prepared.asked id prepared.context := by
  have bound := settled_of_obtainContext prepared.obtained
  have asking := Context.sameBindings_askRelease prepared.context prepared.bound
  rw [prepared.told] at asking
  exact bound.of_sameBindings asking

/-- The same command is built from then on, with any check that its filters pass. -/
theorem build
    (prepared : Preparation world id source output format strict)
    (alike : Alike prepared.asked after)
    {tool : Value}
    {strictToo : Bool}
    (checked : (Filter.releaseCheck tool strictToo
      (prepared.inOrder.map world.filter)).outcome = .ok ()) :
    ((Pipeline.build id source output format tool strictToo).perform after).1 =
      .ok (prepared.words.map .text) := by
  have settled := prepared.settled.of_sameBindings alike.sameBindings
  have sameFilter : after.filter = world.filter := by
    rw [alike]
    exact prepared.prepares.filter_eq
  have samePipeline : (after.pipeline id).filters = (world.pipeline id).filters := by
    rw [alike]
    exact prepared.prepares.pipelineFilters id
  rw [build_eq_ok_iff settled.obtain, sameFilter, samePipeline, alike.context_eq]
  exact ⟨_, _, _, prepared.arranged, checked, prepared.contributed, prepared.encoded,
    prepared.joined⟩

/-- The dry run tells the words of the command from then on. -/
theorem dryRun
    (prepared : Preparation world id source output format strict)
    (alike : Alike prepared.asked after) :
    ((Pipeline.dryRun id source output format).perform after).1 =
      .ok (" ".intercalate prepared.words) := by
  have built : ((Pipeline.build id source output format .null false).perform after).1 = _ :=
    prepared.build alike rfl
  have line : commandLine (prepared.words.map .text) = .ok (" ".intercalate prepared.words) :=
    commandLine_eq_ok_iff.mpr ⟨prepared.words, rfl, rfl⟩
  rw [Pipeline.dryRun, Action.perform_bind]
  rcases performed : (Pipeline.build id source output format .null false).perform after with
    ⟨outcome, later⟩
  rw [performed] at built
  obtain rfl : outcome = .ok (prepared.words.map .text) := built
  exact line

/-- A command of words that has been built has been prepared. -/
theorem of_built
    {context : ContextId}
    {bound asked : World}
    {release : Option String}
    {texts : List String}
    (obtained : (obtainContext id).perform world = (.ok context, bound))
    (told : (Context.askRelease context).perform bound = (.ok release, asked))
    (prepares : Prepares world asked)
    (settled : Settled asked id context)
    (built : ((Pipeline.build id source output format (.ofOption .text release) strict).perform
      asked).1 = .ok (texts.map .text)) :
    Nonempty (Preparation world id source output format strict) := by
  rw [build_eq_ok_iff settled.obtain, prepares.filter_eq, prepares.pipelineFilters] at built
  obtain ⟨inOrder, parts, codec, arranged, checked, contributed, encoded, joined⟩ := built
  exact ⟨⟨context, bound, obtained, release, asked, told, inOrder, arranged, checked, parts,
    contributed, codec, encoded, texts, joined⟩⟩

/-- A run that is prepared calls its command, and does so after all its other calls. -/
theorem run
    (prepared : Preparation world id source output format strict) :
    ∃ earlier after, (∀ call ∈ earlier, call.AsksRelease) ∧
      (Pipeline.run id source output format strict).perform world =
        (execution (prepared.asked.context prepared.context).runner
          (world.outcomeAt earlier.length), after) ∧
      Called world after (earlier ++ [(prepared.asked.context prepared.context).runner.commandCall
        (prepared.words.map .text)]) ∧
      Alike prepared.asked after := by
  obtain ⟨earlier, called, asks⟩ := prepared.prepares.calls
  have outcome := prepared.build (.refl _) prepared.checked
  obtain ⟨logger, notes, left⟩ := prepared.settled.build_leaves_notes source output format
    (.ofOption .text prepared.release) strict
  have built : (Pipeline.build id source output format (.ofOption .text prepared.release)
      strict).perform prepared.asked =
        (.ok (prepared.words.map .text), prepared.asked.afterNotes logger notes) :=
    Prod.ext outcome left
  have calledToo := called.trans (called_afterNotes prepared.asked logger notes)
  rw [List.append_nil] at calledToo
  obtain ⟨after, executed, command, alike⟩ := perform_execute prepared.context prepared.words _
  refine ⟨earlier, after, asks, ?_, calledToo.trans command, alike⟩
  rw [perform_run, prepared.obtained]
  dsimp only
  rw [prepared.told]
  dsimp only
  rw [built]
  dsimp only
  rw [executed, calledToo.nextOutcome_eq]
  rfl

end Preparation

/-- A run that is not prepared fails, and has not called its command. -/
theorem run_unprepared
    {world : World}
    {id : PipelineId}
    {source : Source}
    {output : Argument}
    {format : Option Format}
    {strict : Bool}
    (unprepared : ¬ Nonempty (Preparation world id source output format strict)) :
    ∃ failure after,
      (run id source output format strict).perform world = (.error failure, after) ∧
        Prepares world after := by
  have binding := prepares_obtainContext id world
  rw [perform_run]
  rcases obtained : (obtainContext id).perform world with ⟨failure | context, bound⟩
  · rw [obtained] at binding
    exact ⟨failure, bound, rfl, binding⟩
  · rw [obtained] at binding
    have asking := Context.prepares_askRelease context bound
    have same := Context.sameBindings_askRelease context bound
    rcases told : (Context.askRelease context).perform bound with ⟨failure | release, asked⟩
    · rw [told] at asking
      exact ⟨failure, asked, by simp only [told], binding.trans asking⟩
    · rw [told] at asking same
      have settled := (settled_of_obtainContext obtained).of_sameBindings same
      obtain ⟨logger, notes, left⟩ := settled.build_leaves_notes source output format
        (.ofOption .text release) strict
      have building := (binding.trans asking).trans (prepares_afterNotes asked logger notes)
      rw [← left] at building
      rcases built : (build id source output format (.ofOption .text release) strict).perform
        asked with ⟨failure | arguments, checked⟩
      · rw [built] at building
        exact ⟨failure, checked, by simp only [told, built], building⟩
      · rw [built] at building
        cases line : commandLine arguments with
        | error failure =>
            refine ⟨failure, checked, ?_, building⟩
            simp only [told, built, perform_execute_of_error line]
        | ok text =>
            -- a command of words has passed all stages, so it was prepared after all
            obtain ⟨texts, rfl, -⟩ := commandLine_eq_ok_iff.mp line
            have prepared := Preparation.of_built obtained told (binding.trans asking) settled
              (congrArg Prod.fst built)
            exact absurd prepared unprepared

/-- A run asks for releases first.  Without a preparation it fails, and no command is called.  Once
the command is prepared it is called, once and last; it is made of the words that are built, and
that the dry run tells, in the world that the run leaves; and there is a result exactly if it ends
with status zero. -/
theorem run_calls_command_once_and_last
    (id : PipelineId)
    (source : Source)
    (output : Argument)
    (format : Option Format)
    (strict : Bool)
    (world : World) :
    ∃ outcome after earlier,
      (run id source output format strict).perform world = (outcome, after) ∧
      (∀ call ∈ earlier, call.AsksRelease) ∧
      ((¬ Nonempty (Preparation world id source output format strict) ∧
          Called world after earlier ∧ ∃ failure, outcome = .error failure) ∨
        ∃ prepared : Preparation world id source output format strict, ∃ command,
          command = (after.context prepared.context).runner.commandCall
            (prepared.words.map .text) ∧
          ¬ command.AsksRelease ∧
          Called world after (earlier ++ [command]) ∧
          (obtainContext id).perform after = (.ok prepared.context, after) ∧
          ((build id source output format .null false).perform after).1 =
            .ok (prepared.words.map .text) ∧
          ((dryRun id source output format).perform after).1 =
            .ok (" ".intercalate prepared.words) ∧
          ((∃ result, outcome = .ok result) ↔
            (world.outcomeAt earlier.length).exitStatus? = some 0)) := by
  by_cases preparation : Nonempty (Preparation world id source output format strict)
  · obtain ⟨prepared⟩ := preparation
    obtain ⟨earlier, after, asks, performed, called, alike⟩ := prepared.run
    have settled := prepared.settled.of_sameBindings alike.sameBindings
    refine ⟨_, after, earlier, performed, asks, .inr ⟨prepared, _, rfl, ?_, ?_, ?_, ?_, ?_, ?_⟩⟩
    · exact Runner.not_asksRelease_commandCall _ _
    · rw [alike.context_eq]
      exact called
    · exact settled.obtain
    · exact prepared.build alike rfl
    · exact prepared.dryRun alike
    · exact execution_ok_iff
  · obtain ⟨failure, after, performed, prepares⟩ := run_unprepared preparation
    obtain ⟨earlier, called, asks⟩ := prepares.calls
    exact ⟨_, after, earlier, performed, asks, .inl ⟨preparation, called, failure, rfl⟩⟩

end Pipeline
end Filtergraph
