import Filtergraph.Filter.Compile
import Filtergraph.World.Basic

/-!
# Running commands

A command is run once.  A tool that is missing or takes too long is a tool failure; what else
keeps it from starting is passed on as it is.
-/

namespace Filtergraph

/-- Whether an exit status tells of success. -/
def isSuccess (status : Word) : Bool :=
  status.value.same (.int 0)

/-- The result of a finished command. -/
def resultOf (status : Word) (output errors : Option String) : Except Failure RunResult :=
  ((Schema.checkResult (.table [("returncode", status.value), ("stdout", .text (output.getD "")),
    ("stderr", .text (errors.getD ""))])).toExcept .result).mapError .rejected

/-- The arguments of a command that is given as one value: its items.  A record is made of pairs of
names and values, and a pair is no word. -/
def Value.toArguments : Value -> Except Failure (List Argument)
  | .record _ => .error (.wrongType (.word 0 "tuple"))
  | value =>
    match value.items? with
    | some arguments => .ok arguments
    | none => .error (.wrongType .wordless)

namespace Runner

/-- What becomes of the outcome of a command. -/
def conclude (runner : Runner) : Outcome -> Action RunResult
  | .finished status output errors => do
    if !isSuccess status then
      Action.tell runner.logger .debug
        ("FFmpeg exited with " ++ status.plain ++ ": " ++ errors.getD nullText)
    Action.ofExcept (resultOf status output errors)
  | .expired => throw (.tool (.commandTimedOut runner.limit))
  | .missing reason => throw (.tool (.notFound .encoder reason))
  | .refused refusal message => throw (.refused refusal message)
  | .malformed message => throw (.wrongValue (.reported message))

/-- Runs a command. -/
def run (runner : Runner) (arguments : List Argument) : Action RunResult := do
  let line ← Action.ofExcept (commandLine arguments)
  Action.tell runner.logger .info ("Running FFmpeg: " ++ line)
  runner.conclude (← Action.call ⟨arguments, runner.limit, true⟩)

end Runner
end Filtergraph
