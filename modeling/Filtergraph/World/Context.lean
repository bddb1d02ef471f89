import Filtergraph.World.Runner

/-!
# Contexts

A context comes into existence only after both of its tools have told their release.  There is
one default context, which is made when it is first needed.  The release of the encoding tool is
asked for until it is known, and kept from then on.
-/

namespace Filtergraph

/-- The time limit of a call that asks for the release of a tool. -/
def releaseLimit : Word := .int 10

/-- The call that asks for the release of a tool. -/
def releaseCall (tool : Word) : Call :=
  ⟨[tool, .text "-version"], releaseLimit, false⟩

/-- The words of a call that asked for the release of a tool and was stopped at its time limit. -/
def expiryText (tool : Word) : String :=
  "Command '" ++ bracketed [tool.quoted, Text.quoted "-version"] ++ "' timed out after " ++
    releaseLimit.plain ++ " seconds"

/-- What stands in front of the release. -/
def releaseMark : List Char := "ffmpeg version ".toList

/-- The word at the beginning of a text, up to the next blank. -/
def firstWord (cs : List Char) : List Char :=
  cs.takeWhile fun c => !Text.isBlank c

/-- The word behind the first mark that a word follows. -/
def findRelease? : List Char -> Option String
  | [] => none
  | c :: rest =>
    if releaseMark.isPrefixOf (c :: rest) then
      match firstWord ((c :: rest).drop releaseMark.length) with
      | [] => findRelease? rest
      | word => some (String.ofList word)
    else findRelease? rest

namespace Context

/-- Asks a tool for its release, only to see whether it works. -/
def verifyTool (tool : Tool) (path : Word) : Action Unit := do
  match ← Action.call (releaseCall path) with
  | .finished status _ errors =>
    if !isSuccess status then throw (.tool (.notWorking tool errors))
  | .expired => throw (.tool .verificationTimedOut)
  | .missing reason => throw (.tool (.notFound .encoder reason))
  | .refused refusal message => throw (.refused refusal message)
  | .malformed message => throw (.wrongValue (.reported message))

/-- Makes a context of tools that work. -/
def create (encoder prober : Word) (logger : String) (runner : Runner) : Action ContextId := do
  verifyTool .encoder encoder
  verifyTool .prober prober
  Action.tell logger .debug "FFmpeg binaries verified successfully"
  let world ← get
  let context : Context := { encoder, prober, logger, runner }
  set { world with contexts := world.contexts ++ [context] }
  return world.contexts.length

/-- The name of the encoding tool unless another one is given. -/
def defaultEncoder : Word := .text "ffmpeg"

/-- The name of the probing tool unless another one is given. -/
def defaultProber : Word := .text "ffprobe"

/-- The default context, which is made if there is none. -/
def obtainDefault : Action ContextId := do
  match (← get).defaultContext with
  | some id => return id
  | none => do
    let id ← create defaultEncoder defaultProber defaultLogger ⟨defaultLogger, .null⟩
    modify fun world => { world with defaultContext := some id }
    return id

/-- Notes that the release cannot be asked for. -/
def tellUndetermined (logger reason : String) : Action Unit :=
  Action.tell logger .warning ("Could not determine FFmpeg version: " ++ reason)

/-- Keeps the release that the output of the encoding tool tells. -/
def learnRelease (id : ContextId) (output : Option String) : Action (Option String) := do
  let context := (← get).context id
  match findRelease? (output.getD "").toList with
  | none => do
    Action.tell context.logger .warning "Could not parse FFmpeg version output"
    return none
  | some release => do
    modify fun world => world.setContext id { world.context id with release := some release }
    Action.tell context.logger .debug ("FFmpeg version: " ++ release)
    return some release

/-- The release of the encoding tool, which is asked for unless it is known. -/
def askRelease (id : ContextId) : Action (Option String) := do
  let context := (← get).context id
  match context.release with
  | some release => return some release
  | none => do
    match ← Action.call (releaseCall context.encoder) with
    | .finished _ output _ => learnRelease id output
    | .expired => do
      tellUndetermined context.logger (expiryText context.encoder)
      return none
    | .missing reason => do
      tellUndetermined context.logger reason
      return none
    | .refused refusal message => throw (.refused refusal message)
    | .malformed message => throw (.wrongValue (.reported message))

end Context
end Filtergraph
