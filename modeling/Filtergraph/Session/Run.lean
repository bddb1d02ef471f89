import Filtergraph.Session.Operation

/-!
# Sessions

A session performs operations one after another on one world, and knows contexts, runners,
filters and pipelines by names.  A name stands for the object it was last given to; an operation
that fails while it makes an object leaves the name as it was.  A failed operation does not end
the session.
-/

namespace Filtergraph

/-- What names stand for. -/
abbrev Names (α : Type) := List (String × α)

/-- Gives a name to something. -/
def Names.bind (names : Names α) (name : String) (a : α) : Names α :=
  (name, a) :: names.filter fun entry => entry.1 != name

/-- A world and the names of the objects in it. -/
structure Session where
  /-- The world. -/
  world : World := {}
  /-- The names of contexts. -/
  contexts : Names ContextId := []
  /-- The names of runners. -/
  runners : Names Runner := []
  /-- The names of filters. -/
  filters : Names FilterId := []
  /-- The names of pipelines. -/
  pipelines : Names PipelineId := []

/-- What an operation changes in a session, and its result or failure. -/
abbrev SessionAction := ExceptT Failure (StateM Session)

namespace SessionAction

/-- Performs an action on the world of the session. -/
def act (action : Action α) : SessionAction α :=
  ExceptT.mk fun session =>
    let (outcome, world) := action.perform session.world
    (outcome, { session with world })

/-- What a name stands for. -/
def find (names : Session -> Names α) (name : String) : SessionAction α := do
  match (names (← get)).lookup name with
  | some a => return a
  | none => throw (.unknownName name)

/-- What a name stands for, if there is a name. -/
def findOption (names : Session -> Names α) : Option String -> SessionAction (Option α)
  | none => return none
  | some name => return some (← find names name)

/-- What several names stand for. -/
def findAll (names : Session -> Names α) (wanted : List String) : SessionAction (List α) :=
  wanted.mapM (find names)

/-- The value of a draft. -/
def value (draft : Draft) : SessionAction Value :=
  act (.ofExcept draft.resolve)

/-- The value of a draft that may be absent. -/
def valueOr (absent : Value) (draft : Option Draft) : SessionAction Value :=
  act (.ofExcept (Draft.resolveOption draft absent))

/-- The value of a draft as a word. -/
def word (draft : Draft) : SessionAction Word :=
  act (.ofExcept draft.word)

/-- The value of a draft that may be absent, as a word. -/
def wordOr (absent : Word) (draft : Option Draft) : SessionAction Word :=
  act (.ofExcept (Draft.wordOption draft absent))

/-- Whether a draft that may be absent counts as true; an absent one does not. -/
def flag (draft : Option Draft) : SessionAction Bool := do
  return (← valueOr (.bool false) draft).isTrue

/-- The arguments of a command that is given as one draft. -/
def argumentsOf (draft : Draft) : SessionAction (List Argument) := do
  act (.ofExcept (← value draft).toArguments)

/-- The format that is asked for, if one is. -/
def format (request : Option FormatRequest) : SessionAction (Option Format) :=
  act (.ofExcept (FormatRequest.resolveOption request))

/-- The source that is asked for. -/
def openSource (request : SourceRequest) : SessionAction Source := do
  return (← act (.ofExcept request.resolve)).toSource

/-- Changes the files, also where the change fails half-way. -/
def changeFiles (change : FileTree -> Except PathError Unit × FileTree) : SessionAction Unit := do
  let (outcome, files) := change (← get).world.files
  act (modify fun world => { world with files })
  act (.ofExcept (outcome.mapError .badPath))

/-- The names of a context, in order. -/
def namesOf (context : ContextId) : SessionAction (List String) := do
  let entries := (← get).contexts.filter fun entry => entry.2 == context
  return (entries.map Prod.fst).mergeSort

/-- The description of a context. -/
def describe (context : ContextId) : SessionAction Reply := do
  return .context (← namesOf context) ((← get).world.context context)

/-- The names of the filters of a pipeline. -/
def filterNames (pipeline : PipelineId) : SessionAction (List Word) := do
  return ((← get).world.pipelineFilters pipeline).map Filter.name

/-- The filter of a name. -/
def findFilter (name : String) : SessionAction Filter := do
  let id ← find Session.filters name
  return (← get).world.filter id

end SessionAction

namespace Operation

open SessionAction

/-- Performs an operation. -/
def perform : Operation -> SessionAction Reply
  | .newContext name encoder prober logger runner => do
    let encoder ← wordOr Context.defaultEncoder encoder
    let prober ← wordOr Context.defaultProber prober
    let runner ← findOption Session.runners runner
    let logger := loggerOr defaultLogger logger
    let context ← act (Context.create encoder prober logger (runner.getD ⟨logger, .null⟩))
    modify fun session => { session with contexts := session.contexts.bind name context }
    return .newContext (← namesOf context) ((← get).world.context context)
  | .newRunner name logger limit => do
    let limit ← wordOr .null limit
    let runner : Runner := ⟨loggerOr defaultLogger logger, limit⟩
    modify fun session => { session with runners := session.runners.bind name runner }
    return .runner runner
  | .setDefault context => do
    let context ← findOption Session.contexts context
    act (modify fun world => { world with defaultContext := context })
    return .nothing
  | .showDefault => do describe (← act Context.obtainDefault)
  | .release context => do
    let context ← match ← findOption Session.contexts context with
      | some context => pure context
      | none => act Context.obtainDefault
    return .release (← act (Context.askRelease context))
  | .command (.runner name) arguments => do
    let runner ← find Session.runners name
    let arguments ← argumentsOf arguments
    return .commandResult (← act (runner.run arguments))
  | .command (.ofContext name) arguments => do
    let context ← find Session.contexts name
    let arguments ← argumentsOf arguments
    return .commandResult (← act (((← get).world.context context).runner.run arguments))
  | .probe context path => do
    let path ← word path
    let context ← find Session.contexts context
    return .record (.asset (← act (Context.probe context path)))
  | .probeVideo path context => do
    let path ← word path
    let context ← match ← findOption Session.contexts context with
      | some context => pure context
      | none => act Context.obtainDefault
    return .record (.asset (← act (Context.probe context (.text path.plain))))
  | .newFilter name request => do
    let world := (← get).world
    let filter ← act (.ofExcept (request.resolve world.files))
    act (modify fun world => { world with filters := world.filters ++ [filter] })
    let id := world.filters.length
    modify fun session => { session with filters := session.filters.bind name id }
    return .filter filter
  | .fragment filter request => do
    let filter ← findFilter filter
    let format ← format request
    return .contribution (← act (.ofExcept (filter.fragment format)))
  | .apply filter source request => do
    let filter ← findFilter filter
    match ← act (.ofExcept source.resolve) with
    | .single input => do
      let format ← format request
      return .contribution (← act (.ofExcept (filter.single input format)))
    | .several inputs => return .contribution (← act (.ofExcept (filter.multiple inputs)))
  | .assign filter property draft => do
    let id ← find Session.filters filter
    let value ← value draft
    let filter ← act (.ofExcept (((← get).world.filter id).assign property value))
    act (modify fun world => { world with filters := world.filters.set id filter })
    return .nothing
  | .writeFile path => do
    changeFiles fun files => files.addFile path
    return .nothing
  | .removeFile path => do
    changeFiles fun files => files.removeFile path
    return .nothing
  | .newPipeline name context => do
    let context ← findOption Session.contexts context
    let pipeline ← act (Pipeline.create context)
    modify fun session => { session with pipelines := session.pipelines.bind name pipeline }
    return .filters (← filterNames pipeline)
  | .add pipeline filters => do
    let pipeline ← find Session.pipelines pipeline
    for name in filters do
      let filter ← find Session.filters name
      act (Pipeline.add pipeline filter)
    return .added (← filterNames pipeline)
  | .list pipeline => do
    let pipeline ← find Session.pipelines pipeline
    return .filters (← filterNames pipeline)
  | .showContext pipeline => do
    let pipeline ← find Session.pipelines pipeline
    describe (← act (Pipeline.obtainContext pipeline))
  | .compile pipeline request tool strict => do
    let pipeline ← find Session.pipelines pipeline
    let format ← format request
    let tool ← valueOr .null tool
    let strict ← flag strict
    return .contribution (some (← act (Pipeline.compile pipeline format tool strict)))
  | .build pipeline source output request tool strict => do
    let pipeline ← find Session.pipelines pipeline
    let source ← openSource source
    let output ← value output
    let format ← format request
    let tool ← valueOr .null tool
    let strict ← flag strict
    return .contribution (some (← act (Pipeline.build pipeline source output format tool strict)))
  | .dryRun pipeline source output request => do
    let pipeline ← find Session.pipelines pipeline
    let source ← openSource source
    let output ← valueOr Pipeline.dryRunOutput output
    let format ← format request
    return .text (← act (Pipeline.dryRun pipeline source output format))
  | .run pipeline source output request strict => do
    let pipeline ← find Session.pipelines pipeline
    let source ← openSource source
    let output ← value output
    let format ← format request
    let strict ← flag strict
    return .record (.result (← act (Pipeline.run pipeline source output format strict)))
  | .compileFilters filters request tool strict logger => do
    let filters ← findAll Session.filters filters
    let format ← format request
    let tool ← valueOr .null tool
    let strict ← flag strict
    let logger := loggerOr pipelineLogger logger
    let report := Filter.compile (← get).world.filter filters format tool strict
    return .contribution (some (← act (.ofReport logger report)))
  | .order filters tool strict => do
    let entries ← filters.mapM fun name => return (name, ← find Session.filters name)
    let tool ← valueOr .null tool
    let strict ← flag strict
    let world := (← get).world
    let report := Filter.ordered (fun entry => world.filter entry.2) entries tool strict
    let inOrder ← act (.ofReport pipelineLogger report)
    return .order (inOrder.map Prod.fst)
  | .check filters tool strict => do
    let filters ← filters.mapM findFilter
    let tool ← valueOr .null tool
    let strict ← flag strict
    act (.ofReport pipelineLogger (Filter.checkReleases tool strict filters))
    return .nothing

end Operation

/-- What an operation leaves to be seen: its reply or failure, and what was done. -/
structure Answer where
  /-- The reply or the failure. -/
  outcome : Except Failure Reply
  /-- What was done. -/
  events : List Event

namespace Session

/-- Performs an operation with a script for its calls; what is left of the script is dropped. -/
def step (session : Session) (operation : Operation) (script : List Outcome) : Answer × Session :=
  let world := { session.world with script := script, trace := [] }
  let (outcome, session) := operation.perform.run.run { session with world }
  (⟨outcome, session.world.trace⟩, session)

/-- Performs operations one after another. -/
def run (session : Session) : List (Operation × List Outcome) -> List Answer × Session
  | [] => ([], session)
  | (operation, script) :: rest =>
    let (answer, session) := session.step operation script
    let (answers, session) := session.run rest
    (answer :: answers, session)

end Session
end Filtergraph
