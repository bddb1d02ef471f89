import Filtergraph.Filter.Literal
import Filtergraph.Filter.Overlay
import Filtergraph.World.Pipeline
import Filtergraph.World.Probe

/-!
# Operations

The operations of a session and their replies, as data.  Operations name the objects they are
about; replies hold what is to be shown.
-/

namespace Filtergraph

/-- How a source is asked for. -/
inductive SourceRequest where
  /-- By opening a path, whatever it is. -/
  | opened (path : Draft)
  /-- As a value that is passed on as it is. -/
  | given (value : Draft)
  /-- By a document for several inputs, and the format that goes with them. -/
  | inputs (document : Draft) (format : Option FormatRequest)
  deriving Repr

/-- What is given to filters or pipelines: an input that may not have been opened yet, or several
inputs. -/
inductive Subject where
  | single (input : Input)
  | several (inputs : Inputs)
  deriving Repr

namespace Subject

/-- A value as it is: records of inputs are inputs, and other values have not been opened. -/
def ofValue : Value -> Except Failure Subject
  | .record (.video video) => .ok (.single (.video video))
  | .record (.media media) => .ok (.several (.ofMedia media))
  | value => do return .single (.unopened (← Word.ofValue value))

/-- The source of a command: what has not been opened is taken for a path. -/
def toSource : Subject -> Source
  | .single (.video opened) => .single opened
  | .single (.unopened word) => .single ⟨word.plain⟩
  | .several inputs => .several inputs

end Subject

/-- What is asked for as a source. -/
def SourceRequest.resolve : SourceRequest -> Except Failure Subject
  | .opened path => do return .single (.video ⟨(← path.word).plain⟩)
  | .given value => do Subject.ofValue (← value.resolve)
  | .inputs document request => do
    let format ← FormatRequest.resolveOption request
    let media ← ((Schema.checkMedia (← document.resolve)).toExcept .media).mapError .rejected
    return .several ⟨media.inputs, format⟩

/-- How the settings that all filters share are asked for.  Absent drafts leave a setting at what it
is by itself. -/
structure SettingsRequest where
  /-- The ordering key. -/
  priority : Option Draft := none
  /-- The oldest release of the tool that the filter works with. -/
  minimum : Option Draft := none
  deriving Repr

/-- The settings that are asked for. -/
def SettingsRequest.resolve (request : SettingsRequest) : Except Failure FilterSettings := do
  let unchanged : FilterSettings := {}
  let priority ← Draft.resolveOption request.priority unchanged.priority
  let minimum ← Draft.resolveOption request.minimum unchanged.minimum
  return { priority, minimum }

/-- How a filter with fixed arguments is asked for. -/
structure LiteralRequest where
  /-- The name. -/
  name : Draft
  /-- The arguments, or else a tag with the name. -/
  fixed : Option (List Draft) := none
  /-- Whether the kind of the format follows. -/
  echoes : Bool := false
  /-- The message it fails with. -/
  failure : Option Draft := none
  deriving Repr

/-- The filter with fixed arguments that is asked for. -/
def LiteralRequest.resolve (request : LiteralRequest) : Except Failure Literal := do
  let name ← request.name.word
  let fixed ← request.fixed.mapM Draft.resolveItems
  let failure ← request.failure.mapM Draft.word
  return { name, fixed, echoes := request.echoes, failure := failure.map Word.plain }

/-- How a filter is asked for.  Absent drafts leave a setting at what it is by itself. -/
inductive FilterRequest where
  | watermark (path : Draft) (coordinates scale time priority : Option Draft)
  | fixed (literal : LiteralRequest) (settings : SettingsRequest)
  | telling (literal : LiteralRequest) (settings : SettingsRequest)
  | empty (settings : SettingsRequest)
  deriving Repr

/-- The filter that is asked for. -/
def FilterRequest.resolve (files : FileTree) : FilterRequest -> Except Failure Filter
  | .watermark path coordinates scale time priority => do
    let path ← path.resolve
    let coordinates ← Draft.resolveOption coordinates .null
    let scale ← Draft.resolveOption scale .null
    let time ← Draft.resolveOption time .null
    let priority ← Draft.resolveOption priority (.int 0)
    let watermark ← Watermark.create files { path, coordinates, scale, time }
    return watermark.toFilter priority
  | .fixed literal settings => do
    return (← literal.resolve).toFilter (← settings.resolve)
  | .telling literal settings => do
    return (← literal.resolve).toTellingFilter (← settings.resolve)
  | .empty settings => do return emptyFilter (← settings.resolve)

/-- What runs a command by itself. -/
inductive RunnerName where
  | runner (name : String)
  | ofContext (name : String)
  deriving DecidableEq, Repr

/-- What can be asked of a session. -/
inductive Operation where
  | newContext (name : String) (encoder prober : Option Draft) (logger runner : Option String)
  | newRunner (name : String) (logger : Option String) (limit : Option Draft)
  | setDefault (context : Option String)
  | showDefault
  | release (context : Option String)
  | command (runner : RunnerName) (arguments : Draft)
  | probe (context : String) (path : Draft)
  | probeVideo (path : Draft) (context : Option String)
  | newFilter (name : String) (request : FilterRequest)
  | fragment (filter : String) (format : Option FormatRequest)
  | apply (filter : String) (source : SourceRequest) (format : Option FormatRequest)
  | assign (filter property : String) (value : Draft)
  | writeFile (path : String)
  | removeFile (path : String)
  | newPipeline (name : String) (context : Option String)
  | add (pipeline : String) (filters : List String)
  | list (pipeline : String)
  | showContext (pipeline : String)
  | compile (pipeline : String) (format : Option FormatRequest) (tool : Option Draft)
      (strict : Option Draft)
  | build (pipeline : String) (source : SourceRequest) (output : Draft)
      (format : Option FormatRequest) (tool : Option Draft) (strict : Option Draft)
  | dryRun (pipeline : String) (source : SourceRequest) (output : Option Draft)
      (format : Option FormatRequest)
  | run (pipeline : String) (source : SourceRequest) (output : Draft)
      (format : Option FormatRequest) (strict : Option Draft)
  | compileFilters (filters : List String) (format : Option FormatRequest) (tool : Option Draft)
      (strict : Option Draft) (logger : Option String)
  | order (filters : List String) (tool : Option Draft) (strict : Option Draft)
  | check (filters : List String) (tool : Option Draft) (strict : Option Draft)
  deriving Repr

/-- What an operation replies. -/
inductive Reply where
  | nothing
  | text (s : String)
  | release (release : Option String)
  | contribution (arguments : Option (List Argument))
  | newContext (names : List String) (context : Context)
  | context (names : List String) (context : Context)
  | runner (runner : Runner)
  | commandResult (result : RunResult)
  | record (record : Record)
  | filter (filter : Filter)
  | filters (names : List Word)
  | added (names : List Word)
  | order (filters : List String)

end Filtergraph
