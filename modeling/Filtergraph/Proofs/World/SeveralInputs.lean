import Filtergraph.Filter.Overlay
import Filtergraph.Proofs.World.Making

/-!
# Commands over several inputs

A pipeline of watermarks makes nothing of the number of its inputs.  The command over several
inputs is the one over a single input with the same output format, but for the inputs themselves,
and these can be read back from it whatever they look like.
-/

namespace Filtergraph

/-! ## Filters of watermarks -/

namespace Filter

variable {filter : Filter}

/-- The filter draws a watermark by what it holds, and does nothing else. -/
structure Overlays (filter : Filter) : Prop where
  plain : filter.Plain
  own : filter.ownFragment =
    fun holdings _ => holdings.draw.map fun drawn => some (drawn.map .text)

theorem overlays_toFilter (watermark : Watermark) (priority : Value) :
    (watermark.toFilter priority).Overlays :=
  ⟨watermark.plain_toFilter priority, rfl⟩

/-- The format does not matter to the filter of a watermark. -/
theorem Overlays.fragment_eq (overlays : filter.Overlays) (format : Option Format) :
    filter.fragment format = filter.fragment none := by
  rw [fragment, fragment, overlays.own]

/-- Neither does the source. -/
theorem Overlays.contribution_eq
    (overlays : filter.Overlays)
    (source : Source)
    (format : Option Format) :
    source.contribution format filter = filter.fragment none := by
  obtain ⟨single, multiple⟩ := overlays.plain.uniform
  cases source with
  | single video => exact (single (.video video) format).trans (overlays.fragment_eq format)
  | several inputs => exact (multiple inputs).trans (overlays.fragment_eq inputs.format)

/-- What is drawn is one graph behind its option. -/
theorem exists_graph_of_draw
    {holdings : Holdings}
    {drawn : List String}
    (draws : holdings.draw = .ok drawn) :
    ∃ graph, drawn = ["-vf", graph] := by
  simp only [Holdings.draw, bind_eq_ok_iff] at draws
  obtain ⟨placement, -, point, -, window, -, gate, -, size, -, scaling, -, held, -, picture, -,
    same⟩ := draws
  exact ⟨_, (Except.ok.inj same).symm⟩

theorem Overlays.exists_graph
    {part : List Argument}
    (overlays : filter.Overlays)
    (contributes : filter.fragment none = .ok (some part)) :
    ∃ graph, part = [.text "-vf", .text graph] := by
  rw [fragment] at contributes
  cases replaced : filter.holdings.fragment with
  | some value =>
      rw [replaced] at contributes
      cases contributes
  | none =>
      rw [replaced, overlays.own] at contributes
      obtain ⟨drawn, draws, same⟩ := map_eq_ok_iff.mp contributes
      obtain ⟨graph, rfl⟩ := exists_graph_of_draw draws
      exact ⟨graph, (Option.some.inj same).symm⟩

end Filter

/-! ## Inputs of commands -/

/-- The paths of a source. -/
def Source.paths : Source -> List String
  | .single video => [video.source]
  | .several inputs => inputs.paths

/-- The command of a tool and its inputs, with what comes behind them. -/
def commandOver (encoder : Argument) (paths : List String) (behind : List Argument) :
    List Argument :=
  [encoder, .text "-y"] ++ (paths.flatMap fun path => [.text "-i", .text path]) ++ behind

theorem inputArguments_eq (source : Source) :
    source.inputArguments = source.paths.flatMap fun path => [.text "-i", .text path] := by
  cases source <;> rfl

/-- The inputs that a list of arguments starts with. -/
def leadingInputs : List Argument -> List String
  | .text flag :: .text path :: rest => if flag = "-i" then path :: leadingInputs rest else []
  | _ => []

/-- The inputs of a command, which come behind the tool and its first option. -/
def inputsOf (command : List Argument) : List String :=
  leadingInputs (command.drop 2)

@[simp] theorem leadingInputs_pair (path : String) (rest : List Argument) :
    leadingInputs (.text "-i" :: .text path :: rest) = path :: leadingInputs rest :=
  if_pos rfl

/-- Where no input follows, inputs are read back whatever they look like. -/
theorem leadingInputs_append
    {behind : List Argument}
    (ends : leadingInputs behind = [])
    (paths : List String) :
    leadingInputs ((paths.flatMap fun path => [.text "-i", .text path]) ++ behind) = paths := by
  induction paths with
  | nil => exact ends
  | cons path rest inductionHypothesis =>
      rw [List.flatMap_cons, List.append_assoc, List.cons_append, List.singleton_append,
        leadingInputs_pair, inductionHypothesis]

theorem inputsOf_commandOver
    {behind : List Argument}
    (ends : leadingInputs behind = [])
    (encoder : Argument)
    (paths : List String) :
    inputsOf (commandOver encoder paths behind) = paths :=
  leadingInputs_append ends paths

/-- The arguments are none, or start with another option than that of an input. -/
def StartsBehindInputs (arguments : List Argument) : Prop :=
  arguments = [] ∨ ∃ flag rest, arguments = .text flag :: rest ∧ flag ≠ "-i"

theorem StartsBehindInputs.append
    {arguments more : List Argument}
    (starts : StartsBehindInputs arguments)
    (startsToo : StartsBehindInputs more) :
    StartsBehindInputs (arguments ++ more) := by
  obtain rfl | ⟨flag, rest, rfl, different⟩ := starts
  · exact startsToo
  · exact .inr ⟨flag, rest ++ more, rfl, different⟩

/-- A single argument is no input, even if it looks like the option of one. -/
theorem StartsBehindInputs.leadingInputs_append_singleton
    {arguments : List Argument}
    (starts : StartsBehindInputs arguments)
    (output : Argument) :
    leadingInputs (arguments ++ [output]) = [] := by
  obtain rfl | ⟨flag, rest, rfl, different⟩ := starts
  · cases output <;> rfl
  · cases rest with
    | nil =>
        cases output with
        | text s => exact if_neg different
        | _ => rfl
    | cons next rest =>
        cases next with
        | text s => exact if_neg different
        | _ => rfl

theorem Profile.exists_arguments
    (profile : Profile)
    (word : String -> α)
    (quality preset : α) :
    ∃ rest, profile.arguments word quality preset = word "-c:v" :: rest := by
  cases profile <;> exact ⟨_, rfl⟩

/-- Codec arguments start with the option for the codec. -/
theorem startsBehindInputs_codec
    {format : Option Format}
    {codec : List Argument}
    (encoded : codecArguments format = .ok codec) :
    StartsBehindInputs codec := by
  match format with
  | none => exact .inl (Except.ok.inj encoded).symm
  | some (.checked encoding) =>
      simp only [codecArguments, Format.arguments, bind_eq_ok_iff, Failure.written_eq_ok_iff,
        Encoding.arguments?_eq_some_iff] at encoded
      obtain ⟨_, ⟨-, rfl⟩, made⟩ := encoded
      obtain ⟨rest, starts⟩ := encoding.profile.exists_arguments id
        (toString encoding.effectiveQuality) encoding.effectivePreset
      rw [starts] at made
      exact .inr ⟨"-c:v", rest.map .text, (Except.ok.inj made).symm, by decide⟩
  | some (.unchecked kind quality preset) =>
      simp only [codecArguments, Format.arguments, bind_eq_ok_iff] at encoded
      obtain ⟨kind, -, made⟩ := encoded
      cases known : Format.profile? kind with
      | none =>
          rw [known] at made
          obtain ⟨_, -, same⟩ := bind_eq_ok_iff.mp made
          cases same
      | some profile =>
          rw [known] at made
          obtain ⟨factor, -, same⟩ := bind_eq_ok_iff.mp made
          obtain ⟨rest, starts⟩ := profile.exists_arguments .text (.text factor)
            (Format.orElse preset (.text defaultPreset))
          exact .inr ⟨"-c:v", rest, (Except.ok.inj same).symm.trans starts, by decide⟩

theorem startsBehindInputs_gather
    {filters : List Filter}
    {contributed : List Argument}
    (overlays : ∀ filter ∈ filters, filter.Overlays)
    (gathered : Filter.gather (·.fragment none) filters = .ok contributed) :
    StartsBehindInputs contributed := by
  cases filters with
  | nil => exact .inl (Except.ok.inj gathered).symm
  | cons filter rest =>
      obtain ⟨part, others, contributes, -, rfl⟩ := Filter.gather_cons_eq_ok_iff.mp gathered
      obtain ⟨graph, rfl⟩ := (overlays filter List.mem_cons_self).exists_graph contributes
      exact .inr ⟨"-vf", _, rfl, by decide⟩

/-! ## Building commands -/

/-- What a command over watermarks has behind its inputs. -/
def behindInputs (output : Argument) (format : Option Format) (filters : List Filter) :
    Except Failure (List Argument) := do
  let contributed ← Filter.gather (·.fragment none) filters
  let codec ← codecArguments format
  return contributed ++ codec ++ [output]

/-- No input follows behind the inputs. -/
theorem leadingInputs_behindInputs
    {output : Argument}
    {format : Option Format}
    {filters : List Filter}
    {behind : List Argument}
    (overlays : ∀ filter ∈ filters, filter.Overlays)
    (made : behindInputs output format filters = .ok behind) :
    leadingInputs behind = [] := by
  simp only [behindInputs, bind_eq_ok_iff] at made
  obtain ⟨contributed, gathered, codec, encoded, joined⟩ := made
  obtain rfl := Except.ok.inj joined
  have starts := (startsBehindInputs_gather overlays gathered).append
    (startsBehindInputs_codec encoded)
  exact starts.leadingInputs_append_singleton output

/-- A command over watermarks depends on its source by the inputs and the output format alone. -/
theorem assemble_of_overlays
    {filters : List Filter}
    (overlays : ∀ filter ∈ filters, filter.Overlays)
    (encoder : Argument)
    (source : Source)
    (output : Argument)
    (format : Option Format) :
    assemble encoder source output format filters =
      (behindInputs output (source.outputFormat format) filters).map
        (commandOver encoder source.paths) := by
  have contributed : Filter.gather (source.contribution format) filters =
      Filter.gather (·.fragment none) filters :=
    Filter.gather_congr fun filter member =>
      (overlays filter member).contribution_eq source format
  rw [assemble, behindInputs, contributed, inputArguments_eq]
  cases Filter.gather (·.fragment none) filters with
  | error failure => rfl
  | ok contributed =>
      cases codecArguments (source.outputFormat format) with
      | error failure => rfl
      | ok codec => simp [commandOver, bind, Except.bind, pure, Except.pure, Except.map]

namespace Pipeline

variable {world : World}
variable {id : PipelineId}

/-- For one output format, building a command over watermarks comes to the same for all sources, but
for the inputs that the command is over. -/
theorem exists_build_of_overlays
    (overlays : ∀ filter ∈ world.pipelineFilters id, filter.Overlays)
    (output : Argument)
    (encoded : Option Format)
    (tool : Value)
    (strict : Bool) :
    ∃ (outcome : Except Failure (Argument × List Argument)) (after : World),
      (∀ source format, source.outputFormat format = encoded ->
        (build id source output format tool strict).perform world =
          (outcome.map fun made => commandOver made.1 source.paths made.2, after)) ∧
      ∀ made, outcome = .ok made -> leadingInputs made.2 = [] := by
  -- the order, the check and the context come first, and know nothing of the source
  have performed (source : Source) (format : Option Format) :=
    perform_build id source output format tool strict world
  dsimp only at performed
  generalize world.afterNotes _ _ = noted at performed
  cases orders : (Filter.ordered world.filter (world.pipeline id).filters tool strict).outcome with
  | error failure =>
      rw [orders] at performed
      exact ⟨.error failure, noted, fun source format _ => performed source format, nofun⟩
  | ok inOrder =>
      rw [orders] at performed
      dsimp only at performed
      have perm := Filter.arrange_perm (Filter.ordered_outcome_eq_ok_iff.mp orders).1
      have overlaysInOrder : ∀ filter ∈ inOrder.map world.filter, filter.Overlays := by
        intro filter member
        exact overlays filter ((perm.map world.filter).mem_iff.mp member)
      rcases obtained : (obtainContext id).perform noted with ⟨failure | context, bound⟩
      · rw [obtained] at performed
        exact ⟨.error failure, bound, fun source format _ => performed source format, nofun⟩
      · rw [obtained] at performed
        dsimp only at performed
        refine ⟨(behindInputs output encoded (inOrder.map world.filter)).map
          ((bound.context context).encoder, ·), bound, ?_, ?_⟩
        · rintro source format rfl
          rw [performed, assemble_of_overlays overlaysInOrder]
          cases behindInputs output (source.outputFormat format) (inOrder.map world.filter) <;> rfl
        · intro made ends
          obtain ⟨behind, built, rfl⟩ := map_eq_ok_iff.mp ends
          exact leadingInputs_behindInputs overlaysInOrder built

/-- For a pipeline of watermarks, several inputs make the command that a single one makes for the
same output format: both fail alike, or the commands differ in nothing but the inputs.  These are
one option and one path for each input and can be read back from the command, whatever they look
like.  With the path of the single input alone there is no difference at all. -/
theorem build_several_like_single
    (overlays : ∀ filter ∈ world.pipelineFilters id, filter.Overlays)
    (video : Video)
    (inputs : Inputs)
    (output : Argument)
    (format : Option Format)
    (tool : Value)
    (strict : Bool) :
    ∃ (outcome : Except Failure (Argument × List Argument)) (after : World),
      (build id (.single video) output (format <|> inputs.format) tool strict).perform world =
        (outcome.map fun made => commandOver made.1 [video.source] made.2, after) ∧
      (build id (.several inputs) output format tool strict).perform world =
        (outcome.map fun made => commandOver made.1 inputs.paths made.2, after) ∧
      (∀ made, outcome = .ok made ->
        ∀ paths, inputsOf (commandOver made.1 paths made.2) = paths) ∧
      (inputs.paths = [video.source] ->
        (build id (.several inputs) output format tool strict).perform world =
          (build id (.single video) output (format <|> inputs.format) tool strict).perform
            world) := by
  obtain ⟨outcome, after, built, ends⟩ := exists_build_of_overlays overlays output
    (format <|> inputs.format) tool strict
  have single := built (.single video) (format <|> inputs.format) rfl
  have several := built (.several inputs) format rfl
  refine ⟨outcome, after, single, several, ?_, ?_⟩
  · intro made succeeds paths
    exact inputsOf_commandOver (ends made succeeds) made.1 paths
  · intro same
    have samePaths : (Source.several inputs).paths = (Source.single video).paths := same
    rw [several, single, samePaths]

/-- A world with one pipeline, whose filter draws a watermark. -/
def overlayWorld : World where
  contexts := [Context.usual]
  filters := [({ path := "logo.png" } : Watermark).toFilter (.int 0)]
  pipelines := [{ context := some 0, filters := [0] }]

/-- Inputs that look like an option and like nothing. -/
def oddInputs : Inputs :=
  ⟨["-i", ""], none⟩

theorem build_overlayWorld :
    ∃ command, ((build 0 (.several oddInputs) (.text "-i") none .null false).perform
      overlayWorld).1 = .ok command := by
  have arranges : Filter.arrange overlayWorld.filter [0] = .ok [0] := by
    rw [Filter.arrange, List.mergeSort_singleton]
    rfl
  have obtained : (obtainContext 0).perform overlayWorld = (.ok 0, overlayWorld) := rfl
  rw [build_outcome obtained]
  have ordered := Filter.ordered_eq arranges .null false
  exact ⟨_, congrArg (fun report : Report (List FilterId) => report.outcome >>= _) ordered⟩

/-- Inputs that look like an option and like nothing are read back. -/
theorem build_oddInputs :
    (∀ filter ∈ overlayWorld.pipelineFilters 0, filter.Overlays) ∧
      ∃ command, ((build 0 (.several oddInputs) (.text "-i") none .null false).perform
        overlayWorld).1 = .ok command ∧ inputsOf command = ["-i", ""] := by
  have overlays : ∀ filter ∈ overlayWorld.pipelineFilters 0, filter.Overlays := by
    intro filter member
    obtain rfl := List.mem_singleton.mp member
    exact Filter.overlays_toFilter _ _
  obtain ⟨command, built⟩ := build_overlayWorld
  obtain ⟨outcome, after, -, several, reads, -⟩ := build_several_like_single overlays ⟨"a.mp4"⟩
    oddInputs (.text "-i") none .null false
  rw [several] at built
  obtain ⟨made, succeeds, rfl⟩ := map_eq_ok_iff.mp built
  exact ⟨overlays, _, (congrArg Prod.fst several).trans built, reads made succeeds _⟩

end Pipeline
end Filtergraph
