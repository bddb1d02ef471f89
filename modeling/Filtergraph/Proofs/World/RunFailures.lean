import Filtergraph.Proofs.Filter.Releases
import Filtergraph.Proofs.World.Making
import Filtergraph.Proofs.World.Refusals

/-!
# How runs fail

A run over filters that do what they promise fails with a failure of a tool, with an outdated
filter if the check is strict, or with a release number that is too long to be read.  The one way
out is a call that the operating system refuses: its refusal is passed on as it is.
-/

namespace Filtergraph

open World

/-! ## Words -/

/-- All arguments are texts. -/
def AreWords (arguments : List Argument) : Prop :=
  ∃ texts : List String, arguments = texts.map .text

theorem AreWords.append
    {front back : List Argument}
    (words : AreWords front)
    (wordsToo : AreWords back) :
    AreWords (front ++ back) := by
  obtain ⟨texts, rfl⟩ := words
  obtain ⟨textsToo, rfl⟩ := wordsToo
  exact ⟨texts ++ textsToo, List.map_append.symm⟩

theorem areWords_inputArguments (source : Source) : AreWords source.inputArguments := by
  cases source with
  | single video => exact ⟨["-i", video.source], rfl⟩
  | several inputs =>
      refine ⟨inputs.paths.flatMap fun path => ["-i", path], ?_⟩
      rw [List.map_flatMap]
      rfl

/-- The arguments of a format are words. -/
def EncodesInWords (format : Option Format) : Prop :=
  ∃ codec, codecArguments format = .ok codec ∧ AreWords codec

/-- A checked encoding encodes in words if its rate factor can be written. -/
theorem encodesInWords_checked
    {encoding : Encoding}
    {codec : List String}
    (written : encoding.arguments? = some codec) :
    EncodesInWords (some (.checked encoding)) := by
  refine ⟨codec.map .text, ?_, codec, rfl⟩
  rw [codecArguments, Format.arguments, written]
  rfl

/-! ## Checks -/

/-- The text names a release of which a component has too many digits. -/
def Version.Unreadable (s : String) (failure : Failure) : Prop :=
  ∃ numeral, Version.parse s = .error numeral ∧ failure = .wrongValue (.numeral numeral)

namespace Filter

variable {tool : String}
variable {strict : Bool}
variable {filter : Filter}
variable {filters others : List Filter}
variable {failure : Failure}

/-- How a check against a release of the tool fails. -/
inductive CheckFails (tool : String) (strict : Bool) (filters : List Filter) : Failure -> Prop where
  | outdated
      {filter : Filter}
      (isStrict : strict = true)
      (member : filter ∈ filters)
      (older : filter.Outdated tool) :
      CheckFails tool strict filters (filter.outdated (.text tool))
  | unreadableTool
      {failure : Failure}
      (unreadable : Version.Unreadable tool failure) :
      CheckFails tool strict filters failure
  | unreadableMinimum
      {filter : Filter}
      {required : String}
      {failure : Failure}
      (member : filter ∈ filters)
      (minimum : filter.minimum = .text required)
      (unreadable : Version.Unreadable required failure) :
      CheckFails tool strict filters failure

theorem CheckFails.mono
    (fails : CheckFails tool strict filters failure)
    (subset : ∀ filter ∈ filters, filter ∈ others) :
    CheckFails tool strict others failure := by
  cases fails with
  | outdated isStrict member older => exact .outdated isStrict (subset _ member) older
  | unreadableTool unreadable => exact .unreadableTool unreadable
  | unreadableMinimum member minimum unreadable =>
      exact .unreadableMinimum (subset _ member) minimum unreadable

theorem checkFails_of_checkRelease
    {required : String}
    (minimum : filter.minimum = .text required)
    (fails : (checkRelease (.text tool) strict filter).outcome = .error failure) :
    CheckFails tool strict [filter] failure := by
  have own : filter ∈ [filter] := List.mem_singleton_self filter
  cases readTool : Version.parse tool with
  | error numeral =>
      have compared : Version.compare (.text tool) filter.minimum =
          .error (.wrongValue (.numeral numeral)) := by
        rw [Version.compare, Version.ofValue, readTool]
        rfl
      rw [checkRelease, compared] at fails
      exact .unreadableTool ⟨numeral, readTool, (Except.error.inj fails).symm⟩
  | ok found =>
      cases readRequired : Version.parse required with
      | error numeral =>
          have compared : Version.compare (.text tool) filter.minimum =
              .error (.wrongValue (.numeral numeral)) := by
            rw [Version.compare, minimum, Version.ofValue_text_eq_ok_iff.mpr readTool,
              Version.ofValue, readRequired]
            rfl
          rw [checkRelease, compared] at fails
          exact .unreadableMinimum own minimum
            ⟨numeral, readRequired, (Except.error.inj fails).symm⟩
      | ok oldest =>
          obtain ⟨note, noted⟩ := exists_noted_of_reads ⟨required, minimum, readTool, readRequired⟩
          by_cases ends : strict = true ∧ filter.Outdated tool
          · obtain ⟨isStrict, older⟩ := ends
            rw [checkRelease_of_outdated older, isStrict] at fails
            rw [← Except.error.inj fails]
            exact .outdated isStrict own older
          · rw [checkRelease_of_noted noted (not_and.mp ends)] at fails
            cases fails

/-- The failure of a check is the failure of the check of one of its filters. -/
theorem checkFails_of_checkReleases
    (minimums : ∀ filter ∈ filters, ∃ required, filter.minimum = .text required)
    (fails : (checkReleases (.text tool) strict filters).outcome = .error failure) :
    CheckFails tool strict filters failure := by
  induction filters with
  | nil => cases fails
  | cons filter rest inductionHypothesis =>
      rw [checkReleases, Report.andThen_outcome] at fails
      cases checked : (checkRelease (.text tool) strict filter).outcome with
      | error raised =>
          rw [checked] at fails
          obtain rfl := Except.error.inj fails
          obtain ⟨required, minimum⟩ := minimums filter List.mem_cons_self
          refine (checkFails_of_checkRelease minimum checked).mono ?_
          intro other member
          exact List.mem_singleton.mp member ▸ List.mem_cons_self
      | ok _ =>
          rw [checked] at fails
          have minimumsRest := fun other member => minimums other (List.mem_cons_of_mem _ member)
          exact (inductionHypothesis minimumsRest fails).mono fun _ => List.mem_cons_of_mem _

/-- A release that was told is one against which the filters are checked; without one, or with an
empty one, they are not. -/
theorem checkFails_of_releaseCheck
    {release : Option String}
    (minimums : ∀ filter ∈ filters, ∃ required, filter.minimum = .text required)
    (fails : (releaseCheck (.ofOption .text release) strict filters).outcome =
      .error failure) :
    ∃ tool, release = some tool ∧ CheckFails tool strict filters failure := by
  cases release with
  | none => cases fails
  | some tool =>
      refine ⟨tool, rfl, ?_⟩
      rw [releaseCheck] at fails
      split at fails
      · exact checkFails_of_checkReleases minimums fails
      · cases fails

/-! ## Filters that do what they promise -/

/-- A filter does what it promises for a source: its priority is an integer, its oldest release a
text, and it contributes words. -/
structure Willing (source : Source) (format : Option Format) (filter : Filter) : Prop where
  priority : filter.HasIntegerPriority
  minimum : ∃ required, filter.minimum = .text required
  contributes : ∃ words, source.contribution format filter = .ok (some words) ∧ AreWords words

theorem exists_parts_of_willing
    {source : Source}
    {format : Option Format}
    (willing : ∀ filter ∈ filters, filter.Willing source format) :
    ∃ parts, Contribute (source.contribution format) filters parts ∧ AreWords parts.flatten := by
  induction filters with
  | nil => exact ⟨[], .nil, [], rfl⟩
  | cons filter rest inductionHypothesis =>
      obtain ⟨part, own, words⟩ := (willing filter List.mem_cons_self).contributes
      obtain ⟨parts, each, wordsToo⟩ := inductionHypothesis fun other member =>
        willing other (List.mem_cons_of_mem _ member)
      exact ⟨part :: parts, .cons own each, words.append wordsToo⟩

end Filter

/-! ## Contexts in use -/

namespace World

variable {world : World}

/-- The context that a pipeline has, or else the default one. -/
def contextInUse? (world : World) (id : PipelineId) : Option ContextId :=
  (world.pipeline id).context.or world.defaultContext

/-- A context knows the release, or a call to come tells it. -/
inductive Tells (world : World) (release : String) : Prop where
  | known
      {context : Context}
      (member : context ∈ world.contexts)
      (known : context.release = some release)
  | printed
      {outcome : Outcome}
      (member : outcome ∈ world.script)
      (heard : Context.heard outcome = .ok (some release))

end World

namespace Context

variable {world asked : World}
variable {id : ContextId}
variable {release : String}

/-- What a context tells when it is asked, it knew or was told by the next call. -/
theorem tells_of_askRelease
    (told : (askRelease id).perform world = (.ok (some release), asked)) :
    world.Tells release := by
  cases known : (world.context id).release with
  | some knownRelease =>
      rw [askRelease_of_known known] at told
      obtain rfl : knownRelease = release :=
        Option.some.inj (Except.ok.inj (Prod.mk.inj told).1)
      rw [World.context] at known
      cases there : world.contexts[id]? with
      | none =>
          rw [there] at known
          cases known
      | some context =>
          rw [there] at known
          exact .known (List.mem_of_getElem? there) known
  | none =>
      obtain ⟨got, performed, -⟩ := askRelease_of_unknown known
      rw [performed] at told
      have heard := (Prod.mk.inj told).1
      rw [nextOutcome] at heard
      cases script : world.script with
      | nil =>
          rw [script] at heard
          cases heard
      | cons outcome rest =>
          rw [script] at heard
          have member : outcome ∈ world.script := by
            rw [script]
            exact List.mem_cons_self
          exact .printed member heard

end Context

namespace Pipeline

variable {world bound : World}
variable {id : PipelineId}
variable {context : ContextId}

theorem surfaces_obtainContext
    (ordinary : world.Ordinary)
    (id : PipelineId) :
    Surfaces Failure.IsOfTool world ((obtainContext id).perform world) := by
  refine .bind (.of_no_call (.refl world) nofun) ?_
  rintro _ _ _ ⟨⟩ -
  cases (world.pipeline id).context with
  | some context => exact .of_no_call (.refl world) nofun
  | none =>
      refine .bind (Context.surfaces_obtainDefault ordinary) ?_
      intro context made _ _ _
      exact .of_no_call (.of_eq rfl rfl) nofun

/-- The context of a pipeline is the one in use, or a usual one that has just been made. -/
theorem contexts_of_obtainContext
    (obtained : (obtainContext id).perform world = (.ok context, bound)) :
    bound.contexts = world.contexts ∧ world.contextInUse? id = some context ∨
      bound.contexts = world.contexts ++ [Context.usual] ∧ context = world.contexts.length := by
  rw [perform_obtainContext] at obtained
  rw [contextInUse?]
  cases bound : (world.pipeline id).context with
  | some context =>
      rw [bound] at obtained
      obtain ⟨same, rfl⟩ := Prod.mk.inj obtained
      exact .inl ⟨rfl, congrArg some (Except.ok.inj same)⟩
  | none =>
      rw [bound] at obtained
      dsimp only at obtained
      cases known : world.defaultContext with
      | some usual =>
          rw [Context.perform_obtainDefault, known] at obtained
          obtain ⟨same, rfl⟩ := Prod.mk.inj obtained
          exact .inl ⟨rfl, congrArg some (Except.ok.inj same)⟩
      | none =>
          obtain ⟨made, performed, makes, -⟩ | ⟨failure, tried, performed, -, -⟩ :=
            Context.obtainDefault_cases known
          · rw [performed] at obtained
            obtain ⟨same, rfl⟩ := Prod.mk.inj obtained
            exact .inr ⟨makes.contexts, (Except.ok.inj same).symm⟩
          · rw [performed] at obtained
            cases (Prod.mk.inj obtained).1

/-- A usual context that is made knows no release yet. -/
theorem tells_of_obtainContext
    {made : List Call}
    {release : String}
    (obtained : (obtainContext id).perform world = (.ok context, bound))
    (called : Called world bound made)
    (tells : bound.Tells release) :
    world.Tells release := by
  cases tells with
  | printed member heard =>
      rw [called.script] at member
      exact .printed (List.mem_of_mem_drop member) heard
  | known member known =>
      obtain ⟨same, -⟩ | ⟨grown, -⟩ := contexts_of_obtainContext obtained
      · exact .known (same ▸ member) known
      · rw [grown] at member
        obtain there | fresh := List.mem_append.mp member
        · exact .known there known
        · rw [List.mem_singleton.mp fresh] at known
          cases known

/-- The encoding tool of a usual context is named by a text. -/
theorem exists_encoder_of_obtainContext
    (obtained : (obtainContext id).perform world = (.ok context, bound))
    (named : ∀ used, world.contextInUse? id = some used ->
      ∃ path, (world.context used).encoder = .text path) :
    ∃ path, (bound.context context).encoder = .text path := by
  obtain ⟨same, inUse⟩ | ⟨grown, rfl⟩ := contexts_of_obtainContext obtained
  · rw [World.context, same]
    exact named context inUse
  · rw [World.context, grown, List.getElem?_concat_length]
    exact ⟨"ffmpeg", rfl⟩

/-! ## Runs -/

/-- Where all filters are willing, the check alone can keep a command from being built. -/
theorem build_outcome_of_willing
    {source : Source}
    {format : Option Format}
    {path : String}
    (settled : Settled world id context)
    (encoder : (world.context context).encoder = .text path)
    (willing : ∀ filter ∈ world.pipelineFilters id, filter.Willing source format)
    (encodes : EncodesInWords (source.outputFormat format))
    (output : String)
    (tool : Value)
    (strict : Bool) :
    ∃ arranged command, arranged.Perm (world.pipelineFilters id) ∧ AreWords command ∧
      ((build id source (.text output) format tool strict).perform world).1 =
        (Filter.releaseCheck tool strict arranged).outcome.map fun _ => command := by
  have integral : ∀ number ∈ (world.pipeline id).filters,
      (world.filter number).HasIntegerPriority := fun number member =>
    (willing _ (List.mem_map_of_mem member)).priority
  obtain ⟨arranged, arranges, stably⟩ := Filter.arrange_of_integerPriorities integral
  have perm : (arranged.map world.filter).Perm (world.pipelineFilters id) :=
    stably.perm.map world.filter
  obtain ⟨parts, contributed, words⟩ := Filter.exists_parts_of_willing fun filter member =>
    willing filter (perm.mem_iff.mp member)
  obtain ⟨codec, encoded, codecWords⟩ := encodes
  refine ⟨arranged.map world.filter, [.text path, .text "-y"] ++ source.inputArguments ++
    parts.flatten ++ codec ++ [.text output], perm, ?_, ?_⟩
  · have front : AreWords [.text path, .text "-y"] := ⟨[path, "-y"], rfl⟩
    have last : AreWords [.text output] := ⟨[output], rfl⟩
    exact (((front.append (areWords_inputArguments source)).append words).append codecWords).append
      last
  · have assembled : assemble (.text path) source (.text output) format
        (arranged.map world.filter) = .ok _ :=
      assemble_eq_ok_iff.mpr ⟨parts, codec, contributed, encoded, rfl⟩
    rw [build_outcome settled.obtain, encoder, Filter.ordered_eq arranges,
      Report.andThen_outcome]
    cases (Filter.releaseCheck tool strict (arranged.map world.filter)).outcome with
    | error failure => rfl
    | ok _ => exact assembled

theorem judges_execution (runner : Runner) : Judges Failure.IsOfTool (execution runner) where
  finished := by
    intro status output errors failure fails
    rw [execution, Runner.conclusion, resultOf_eq] at fails
    dsimp only [Word.value_int, Schema.integer] at fails
    split at fails
    · cases fails
    · cases fails
      exact .tool _
  expired := by
    rintro failure ⟨⟩
    exact .tool _
  missing := by
    rintro reason failure ⟨⟩
    exact .tool _
  refused := fun _ _ => rfl

/-- How a run over willing filters fails. -/
inductive RunFails (world : World) (id : PipelineId) (strict : Bool) : Failure -> Prop where
  | tool (failure : ToolFailure) : RunFails world id strict (.tool failure)
  | check
      {release : String}
      {failure : Failure}
      (tells : world.Tells release)
      (fails : Filter.CheckFails release strict (world.pipelineFilters id) failure) :
      RunFails world id strict failure

/-- Running words as a command fails with a failure of a tool, unless the call is refused. -/
theorem surfaces_execute
    {command : List Argument}
    (ordinary : world.Ordinary)
    (words : AreWords command)
    (context : ContextId) :
    Surfaces Failure.IsOfTool world ((execute context command).perform world) := by
  obtain ⟨texts, rfl⟩ := words
  obtain ⟨after, performed, called, -⟩ := perform_execute context texts world
  rw [performed]
  exact .of_call (judges_execution _) ordinary called

section Prepared

variable {source : Source}
variable {format : Option Format}
variable {path : String}

/-- Once the context is known, building the command of a run and running it fails as a tool or the
check does, unless the command is refused. -/
theorem surfaces_command
    (ordinary : world.Ordinary)
    (settled : Settled world id context)
    (encoder : (world.context context).encoder = .text path)
    (willing : ∀ filter ∈ world.pipelineFilters id, filter.Willing source format)
    (encodes : EncodesInWords (source.outputFormat format))
    (output : String)
    (release : Option String)
    (strict : Bool) :
    Surfaces
      (fun failure => failure.IsOfTool ∨ ∃ tool, release = some tool ∧
        Filter.CheckFails tool strict (world.pipelineFilters id) failure)
      world
      ((build id source (.text output) format (.ofOption .text release) strict >>=
        execute context).perform world) := by
  obtain ⟨arranged, command, perm, words, built⟩ := build_outcome_of_willing settled encoder
    willing encodes output (.ofOption .text release) strict
  obtain ⟨logger, notes, left⟩ := settled.build_leaves_notes source (.text output) format
    (.ofOption .text release) strict
  have quiet := called_afterNotes world logger notes
  have minimums (filter : Filter) (member : filter ∈ arranged) :
      ∃ required, filter.minimum = .text required :=
    (willing filter (perm.mem_iff.mp member)).minimum
  refine .bind ?_ ?_
  · rcases performed : (build id source (.text output) format (.ofOption .text release)
      strict).perform world with ⟨outcome, checked⟩
    rw [performed] at built left
    obtain rfl : checked = world.afterNotes logger notes := left
    refine .of_no_call quiet ?_
    rintro failure rfl
    cases check : (Filter.releaseCheck (.ofOption .text release) strict arranged).outcome with
    | ok _ =>
        rw [check] at built
        cases built
    | error raised =>
        rw [check] at built
        obtain rfl := Except.error.inj built
        obtain ⟨tool, told, fails⟩ := Filter.checkFails_of_releaseCheck minimums check
        exact .inr ⟨tool, told, fails.mono fun _ => perm.mem_iff.mp⟩
  · intro arguments checked made performed called
    rw [performed] at built
    have sameCommand : arguments = command := by
      cases check : (Filter.releaseCheck (.ofOption .text release) strict arranged).outcome with
      | ok _ =>
          rw [check] at built
          exact Except.ok.inj built
      | error raised =>
          rw [check] at built
          cases built
    exact (surfaces_execute (called.ordinary ordinary) (sameCommand ▸ words) context).mono
      fun _ => .inl

/-- A run over willing filters fails as a tool or the check does, unless a call is refused. -/
theorem surfaces_run
    (ordinary : world.Ordinary)
    (named : ∀ used, world.contextInUse? id = some used ->
      ∃ path, (world.context used).encoder = .text path)
    (willing : ∀ filter ∈ world.pipelineFilters id, filter.Willing source format)
    (encodes : EncodesInWords (source.outputFormat format))
    (output : String)
    (strict : Bool) :
    Surfaces (RunFails world id strict) world
      ((run id source (.text output) format strict).perform world) := by
  have ofTool (failure : Failure) (isOfTool : failure.IsOfTool) :
      RunFails world id strict failure := by
    obtain ⟨toolFailure⟩ := isOfTool
    exact .tool toolFailure
  rw [run_eq]
  refine .bind ((surfaces_obtainContext ordinary id).mono ofTool) ?_
  intro context bound calls obtained called
  refine .bind ((Context.surfaces_askRelease (called.ordinary ordinary) context).mono nofun) ?_
  intro release asked callsToo told calledToo
  -- neither step has touched the filters or the name of the encoding tool
  have binding := prepares_obtainContext id world
  have asking := Context.prepares_askRelease context bound
  have same := Context.sameBindings_askRelease context bound
  have continues := continues_askRelease context bound
  rw [obtained] at binding
  rw [told] at asking same continues
  have prepares := binding.trans asking
  have settled := (settled_of_obtainContext obtained).of_sameBindings same
  have sameFilters := prepares.pipelineFilters_eq id
  obtain ⟨path, encoder⟩ := exists_encoder_of_obtainContext obtained named
  have sameEncoder : (asked.context context).encoder = .text path :=
    (congrArg Context.encoder (continues.original_eq context)).trans encoder
  refine (surfaces_command ((called.trans calledToo).ordinary ordinary) settled sameEncoder
    (sameFilters ▸ willing) encodes output release strict).mono ?_
  rintro failure (isOfTool | ⟨tool, rfl, fails⟩)
  · exact ofTool failure isOfTool
  · rw [sameFilters] at fails
    exact .check (tells_of_obtainContext obtained called (Context.tells_of_askRelease told)) fails

end Prepared
end Pipeline

/-! ## All actions -/

/-- Unless a call is refused, making a context and running words fail with nothing but a failure of
a tool, asking for a release does not fail, and a run over willing filters fails with a failure of a
tool or of the check.  A refused call is the last one, and its refusal is the failure. -/
theorem actions_surface
    {world : World}
    (ordinary : world.Ordinary) :
    (∀ encoder prober logger runner, Surfaces Failure.IsOfTool world
      ((Context.create encoder prober logger runner).perform world)) ∧
    (∀ (runner : Runner) (texts : List String), Surfaces Failure.IsOfTool world
      ((runner.run (texts.map .text)).perform world)) ∧
    (∀ context, Surfaces (fun _ => False) world
      ((Context.askRelease context).perform world)) ∧
    ∀ id source format output strict,
      (∀ used, world.contextInUse? id = some used ->
        ∃ path, (world.context used).encoder = .text path) ->
      (∀ filter ∈ world.pipelineFilters id, filter.Willing source format) ->
      EncodesInWords (source.outputFormat format) ->
      Surfaces (Pipeline.RunFails world id strict) world
        ((Pipeline.run id source (.text output) format strict).perform world) := by
  refine ⟨?_, ?_, ?_, ?_⟩
  · exact Context.surfaces_create ordinary
  · exact Runner.surfaces_run ordinary
  · exact Context.surfaces_askRelease ordinary
  · intro id source format output strict named willing encodes
    exact Pipeline.surfaces_run ordinary named willing encodes output strict

/-- A world with one pipeline and one filter, in which the encoding tool is not started. -/
def refusingWorld : World where
  script := [.refused .permission "[Errno 13] Permission denied: 'ffmpeg'"]
  contexts := [Context.usual]
  defaultContext := some 0
  filters := [({ name := .text "t" } : Literal).toFilter {}]
  pipelines := [{ context := some 0, filters := [0] }]

theorem ordinary_refusingWorld : refusingWorld.Ordinary := by
  intro outcome member
  obtain rfl := List.mem_singleton.mp member
  exact .refused .permission _

theorem willing_refusingWorld (video : Video) (encoding : Encoding) :
    ∀ filter ∈ refusingWorld.pipelineFilters 0,
      filter.Willing (.single video) (some (.checked encoding)) := by
  intro filter member
  obtain rfl := List.mem_singleton.mp member
  exact ⟨rfl, ⟨"0.8", rfl⟩, [.text "-tag", .text "t"], rfl, ["-tag", "t"], rfl⟩

/-- In that world, the refusal is what becomes of a run. -/
theorem actions_surface_refusingWorld :
    refusingWorld.Ordinary ∧
      Surfaces (Pipeline.RunFails refusingWorld 0 true) refusingWorld
        ((Pipeline.run 0 (.single ⟨"a.mp4"⟩) (.text "b.mp4") (some (.checked ⟨.vp9, none, none⟩))
          true).perform refusingWorld) := by
  refine ⟨ordinary_refusingWorld, ?_⟩
  obtain ⟨-, -, -, runs⟩ := actions_surface ordinary_refusingWorld
  refine runs 0 _ _ "b.mp4" true ?_ (willing_refusingWorld _ _) (encodesInWords_checked rfl)
  rintro used ⟨⟩
  exact ⟨"ffmpeg", rfl⟩

/-- A refusal is not turned into a failure of a tool: it is the failure of all actions. -/
theorem refusal_escapes :
    let refusal : Failure := .refused .permission "[Errno 13] Permission denied: 'ffmpeg'"
    refusingWorld.Ordinary ∧
      ((Context.create (.text "ffmpeg") (.text "ffprobe") defaultLogger
        ⟨defaultLogger, .null⟩).perform refusingWorld).1 = .error refusal ∧
      ((Runner.run ⟨defaultLogger, .null⟩ [.text "ffmpeg"]).perform refusingWorld).1 =
        .error refusal ∧
      ((Context.askRelease 0).perform refusingWorld).1 = .error refusal ∧
      ((Pipeline.run 0 (.single ⟨"a.mp4"⟩) (.text "b.mp4") none true).perform
        refusingWorld).1 = .error refusal :=
  ⟨ordinary_refusingWorld, rfl, rfl, rfl, rfl⟩

end Filtergraph
