import Filtergraph.Proofs.Text.Marks
import Filtergraph.Proofs.World.Pipelines
import Filtergraph.Session.Operation

/-!
# Commands with a single input

A command with a single input is what the filters of a pipeline contribute, one after another in
their stable arrangement, between the input and the codec arguments.  It fails where the check of
the release fails, otherwise with the first filter that fails, and where none does it can still be
that the encoding has no codec arguments.
-/

namespace Filtergraph

/-- The video of a single input; what has not been opened is taken for a path. -/
def Input.opened : Input -> Video
  | .video opened => opened
  | .unopened word => ⟨word.plain⟩

@[simp] theorem Subject.toSource_single (input : Input) :
    (Subject.single input).toSource = .single input.opened := by
  cases input <;> rfl

namespace Filter

/-- The filter does nothing of its own with a single input. -/
def InheritsSingle (filter : Filter) : Prop :=
  filter.holdings.single = none ∧ filter.ownSingle = none

theorem InheritsSingle.single_eq
    {filter : Filter}
    (inherits : filter.InheritsSingle)
    (input : Input)
    (format : Option Format) :
    filter.single input format = filter.fragment format := by
  rw [single, inherits.1, inherits.2]

end Filter

namespace Pipeline

open World

variable {world : World}
variable {id : PipelineId}
variable {context : ContextId}
variable {arranged : List FilterId}

/-- The codec arguments of an encoding, if there is one, as far as they can be written. -/
def encodingArguments? : Option Encoding -> Option (List Argument)
  | none => some []
  | some encoding => encoding.arguments?.map fun codec => codec.map .text

/-- Codec arguments are missing exactly where the rate factor has too many digits. -/
theorem encodingArguments?_eq_none_iff
    {encoding : Option Encoding} :
    encodingArguments? encoding = none ↔
      ∃ asked ∈ encoding, digitLimit < digitCount asked.effectiveQuality := by
  cases encoding with
  | none => simp [encodingArguments?]
  | some encoding => simp [encodingArguments?, Encoding.arguments?_eq_none_iff]

theorem codecArguments_checked (encoding : Option Encoding) :
    codecArguments (encoding.map .checked) = Failure.written (encodingArguments? encoding) := by
  cases encoding with
  | none => rfl
  | some encoding =>
      rw [Option.map_some, codecArguments, Format.arguments, encodingArguments?]
      cases encoding.arguments? <;> rfl

/-- The command of a video with given codec arguments and contributions. -/
def singleCommand
    (encoder : Argument)
    (video : Video)
    (output : Argument)
    (codec contributed : List Argument) : List Argument :=
  [encoder, .text "-y", .text "-i", .text video.source] ++ contributed ++ codec ++ [output]

/-- A command of a video is assembled of what the filters contribute, and then of the codec
arguments. -/
theorem assemble_single
    (encoder : Argument)
    (video : Video)
    (output : Argument)
    (encoding : Option Encoding)
    (filters : List Filter) :
    assemble encoder (.single video) output (encoding.map .checked) filters =
      (Filter.gather (fun filter => filter.single (.video video) (encoding.map .checked))
        filters) >>= fun contributed =>
          (Failure.written (encodingArguments? encoding)).map fun codec =>
            singleCommand encoder video output codec contributed := by
  have contribution : (Source.single video).contribution (encoding.map .checked) =
      fun filter => filter.single (.video video) (encoding.map .checked) := rfl
  rw [assemble, contribution, ← codecArguments_checked]
  cases Filter.gather _ filters with
  | error failure => rfl
  | ok contributed => rfl

/-- A bound pipeline whose filters can be arranged checks the release and then assembles the
command; nothing but the notes of the check is left behind. -/
theorem perform_build_single
    (bound : (world.pipeline id).context = some context)
    (arranges : Filter.arrange world.filter (world.pipeline id).filters = .ok arranged)
    (video : Video)
    (output : Argument)
    (encoding : Option Encoding)
    (tool : Value)
    (strict : Bool) :
    (build id (.single video) output (encoding.map .checked) tool strict).perform world =
      let check := Filter.releaseCheck tool strict (arranged.map world.filter)
      (check.outcome >>= fun _ =>
          Filter.gather (fun filter => filter.single (.video video) (encoding.map .checked))
            (arranged.map world.filter) >>= fun contributed =>
              (Failure.written (encodingArguments? encoding)).map fun codec =>
                singleCommand (world.context context).encoder video output codec contributed,
        world.afterNotes (world.loggerOfPipeline id) check.notes) := by
  have ordered := Filter.ordered_eq arranges tool strict
  have notes : (Filter.ordered world.filter (world.pipeline id).filters tool strict).notes =
      (Filter.releaseCheck tool strict (arranged.map world.filter)).notes := by
    rw [ordered]
    exact Report.notes_andThen_ofExcept _ fun _ => .ok arranged
  have noted : SameBindings world (world.afterNotes (world.loggerOfPipeline id)
      (Filter.releaseCheck tool strict (arranged.map world.filter)).notes) := ⟨rfl, rfl⟩
  rw [perform_build]
  dsimp only
  rw [notes, ordered, Report.andThen_outcome, ((Settled.bound bound).of_sameBindings noted).obtain]
  cases (Filter.releaseCheck tool strict (arranged.map world.filter)).outcome with
  | error failure => rfl
  | ok _ => exact congrArg (·, _) (assemble_single _ video output encoding _)

/-- The notes of the check are all that compiling leaves behind. -/
theorem perform_compile_of_arrange
    (arranges : Filter.arrange world.filter (world.pipeline id).filters = .ok arranged)
    (format : Option Format)
    (tool : Value)
    (strict : Bool) :
    (compile id format tool strict).perform world =
      let check := Filter.releaseCheck tool strict (arranged.map world.filter)
      (check.outcome >>= fun _ =>
          Filter.gather (fun filter => filter.fragment format) (arranged.map world.filter),
        world.afterNotes (world.loggerOfPipeline id) check.notes) := by
  rw [compile, Action.perform_bind, Action.perform_get]
  dsimp only
  rw [Action.perform_ofReport, Filter.compile_eq arranges, Report.andThen_outcome,
    Report.notes_andThen_ofExcept]
  rfl

/-- Where a pipeline has a context and its filters have integers for priorities, a command of a
video fails with the failure of the check, or else with that of the first filter that fails, or
else because the rate factor of the encoding has too many digits, and in no other way.  Otherwise
it names the tool and the input, then what the filters contribute, in their stable arrangement,
then the codec arguments and the output.  If no filter does anything of its own with a single
input, this is what the pipeline compiles to in between, or its failure, with the same notes. -/
theorem build_single_in_stable_arrangement
    (bound : (world.pipeline id).context = some context)
    (integral : ∀ number ∈ (world.pipeline id).filters,
      (world.filter number).HasIntegerPriority) :
    ∃ arranged,
      StablyArranges (fun number => (world.filter number).rank) (world.pipeline id).filters
        arranged ∧
      ∀ (input : Input) (output : Argument) (encoding : Option Encoding) (tool : Value)
        (strict : Bool),
        let inOrder := arranged.map world.filter
        let check := Filter.releaseCheck tool strict inOrder
        let contribute := fun filter : Filter =>
          filter.single (.video input.opened) (encoding.map .checked)
        let command := singleCommand (world.context context).encoder input.opened output
        let built := (build id (Subject.single input).toSource output (encoding.map .checked) tool
          strict).perform world
        let compiled := (compile id (encoding.map .checked) tool strict).perform world
        (∀ failure, built.1 = .error failure ↔
          check.outcome = .error failure ∨
            check.outcome = .ok () ∧ Filter.FirstFailure contribute inOrder failure ∨
            check.outcome = .ok () ∧ (∃ parts, Filter.Contribute contribute inOrder parts) ∧
              encodingArguments? encoding = none ∧ failure = .wrongValue .unwritable) ∧
        (encodingArguments? encoding = none ↔
          ∃ asked ∈ encoding, digitLimit < digitCount asked.effectiveQuality) ∧
        (∀ arguments, built.1 = .ok arguments ↔
          check.outcome = .ok () ∧
            ∃ parts codec, Filter.Contribute contribute inOrder parts ∧
              encodingArguments? encoding = some codec ∧
              command codec parts.flatten = arguments) ∧
        built.2 = compiled.2 ∧
        ((∀ number ∈ (world.pipeline id).filters, (world.filter number).InheritsSingle) ->
          built.1 = compiled.1 >>= fun middle =>
            (Failure.written (encodingArguments? encoding)).map fun codec =>
              command codec middle) := by
  obtain ⟨arranged, arranges, stably⟩ := Filter.arrange_of_integerPriorities integral
  refine ⟨arranged, stably, ?_⟩
  intro input output encoding tool strict inOrder check contribute command built compiled
  have performed : built = (check.outcome >>= fun _ =>
      Filter.gather contribute inOrder >>= fun contributed =>
        (Failure.written (encodingArguments? encoding)).map fun codec => command codec contributed,
      world.afterNotes (world.loggerOfPipeline id) check.notes) := by
    rw [← perform_build_single bound arranges input.opened output encoding tool strict,
      ← Subject.toSource_single]
  have compiles : compiled = (check.outcome >>= fun _ =>
      Filter.gather (fun filter => filter.fragment (encoding.map .checked)) inOrder,
      world.afterNotes (world.loggerOfPipeline id) check.notes) :=
    perform_compile_of_arrange arranges (encoding.map .checked) tool strict
  rw [performed, compiles]
  refine ⟨?_, encodingArguments?_eq_none_iff, ?_, rfl, ?_⟩
  · intro failure
    rw [← Filter.gather_eq_error_iff, Filter.exists_contribute_iff]
    cases check.outcome with
    | error _ => simp [bind, Except.bind]
    | ok _ =>
        cases Filter.gather contribute inOrder with
        | error _ => simp [bind, Except.bind]
        | ok contributed =>
            cases encodingArguments? encoding <;> simp [bind, Except.bind, Except.map, eq_comm]
  · intro arguments
    simp only [bind_eq_ok_iff, map_eq_ok_iff, Filter.gather_eq_ok_iff, Failure.written_eq_ok_iff]
    constructor
    · rintro ⟨⟨⟩, checked, contributed, ⟨parts, joined, rfl⟩, codec, written, rfl⟩
      exact ⟨checked, parts, codec, joined, written, rfl⟩
    · rintro ⟨checked, parts, codec, joined, written, rfl⟩
      exact ⟨(), checked, _, ⟨parts, joined, rfl⟩, codec, written, rfl⟩
  · intro inherits
    have same : Filter.gather contribute inOrder =
        Filter.gather (fun filter => filter.fragment (encoding.map .checked)) inOrder := by
      apply Filter.gather_congr
      intro filter member
      obtain ⟨number, there, rfl⟩ := List.mem_map.mp member
      exact (inherits number (stably.perm.mem_iff.mp there)).single_eq _ _
    rw [same]
    cases check.outcome <;> rfl

/-- A world with a bound pipeline, to which the filter that comes last was added first. -/
def taggingWorld : World where
  contexts := [{
    encoder := .text "ffmpeg"
    prober := .text "ffprobe"
    logger := defaultLogger
    runner := ⟨defaultLogger, .null⟩ }]
  filters := [Filter.tag ("late", 2), Filter.tag ("early", -1)]
  pipelines := [{ context := some 0, filters := [0, 1] }]

theorem build_single_early_late :
    (taggingWorld.pipeline 0).context = some 0 ∧
      (∀ number ∈ (taggingWorld.pipeline 0).filters,
        (taggingWorld.filter number).HasIntegerPriority) ∧
      ((build 0 (Subject.single (.unopened (.text "in.mp4"))).toSource (.text "out.mp4") none .null
        false).perform taggingWorld).1 =
          .ok (["ffmpeg", "-y", "-i", "in.mp4", "-tag", "early", "-tag", "late",
            "out.mp4"].map .text) := by
  have added : (taggingWorld.pipeline 0).filters = [0, 1] := rfl
  have late : (taggingWorld.filter 0).HasIntegerPriority ∧ (taggingWorld.filter 0).rank = 2 :=
    Filter.rank_of_priority rfl
  have early : (taggingWorld.filter 1).HasIntegerPriority ∧ (taggingWorld.filter 1).rank = -1 :=
    Filter.rank_of_priority rfl
  have integral : ∀ number ∈ (taggingWorld.pipeline 0).filters,
      (taggingWorld.filter number).HasIntegerPriority := by
    intro number member
    obtain rfl | rfl : number = 0 ∨ number = 1 := by
      simpa [added] using member
    · exact late.1
    · exact early.1
  have bound : (taggingWorld.pipeline 0).context = some 0 := rfl
  obtain ⟨arranged, stably, builds⟩ := build_single_in_stable_arrangement bound integral
  have expected : StablyArranges (fun number => (taggingWorld.filter number).rank)
      (taggingWorld.pipeline 0).filters [1, 0] := by
    refine ⟨List.Perm.swap 0 1 [], by simp [late.2, early.2], ?_⟩
    intro r
    rw [added]
    simp only [rankClass, List.filter_cons, List.filter_nil, late.2, early.2, decide_eq_true_eq]
    grind
  obtain rfl : arranged = [1, 0] := expected.eq_of_classes stably fun _ => rfl
  refine ⟨bound, integral, ((builds (.unopened (.text "in.mp4")) _ none _ _).2.2.1 _).mpr ?_⟩
  exact ⟨rfl, [_, _], [], .cons rfl (.cons rfl .nil), rfl, rfl⟩

/-- A world with a bound pipeline without filters. -/
def plainWorld : World where
  contexts := taggingWorld.contexts
  pipelines := [{ context := some 0 }]

/-- An encoding whose rate factor has one digit more than can be written. -/
def longEncoding : Encoding :=
  { profile := .h264, quality := some (10 ^ digitLimit), preset := some defaultPreset }

theorem encodingArguments?_longEncoding : encodingArguments? (some longEncoding) = none := by
  have effective : longEncoding.effectiveQuality = 10 ^ digitLimit :=
    (Encoding.effectiveQuality_eq_iff rfl).mpr (Int.pow_ne_zero (by decide))
  rw [encodingArguments?_eq_none_iff]
  refine ⟨longEncoding, rfl, ?_⟩
  rw [effective]
  exact lt_digitCount_pow (by decide)

/-- A filter of a kind that does nothing of its own with a single input, in which a value has been
put in the place of what it does. -/
def overriddenTag : Filter :=
  { Filter.tag ("t", 0) with
    holdings := { (Filter.tag ("t", 0)).holdings with single := some (.int 5) } }

/-- A world with a bound pipeline that holds this filter. -/
def overriddenWorld : World where
  contexts := taggingWorld.contexts
  filters := [overriddenTag]
  pipelines := [{ context := some 0, filters := [0] }]

/-- A command can fail where the check passes and no filter fails, even where there is none and the
pipeline compiles.  It can also fail where the pipeline compiles because a filter of a kind that
does nothing of its own with a single input has been given a value in the place of what it does. -/
theorem build_fails_where_compiled :
    ((plainWorld.pipeline 0).context = some 0 ∧
      (∀ number ∈ (plainWorld.pipeline 0).filters,
        (plainWorld.filter number).HasIntegerPriority) ∧
      ((compile 0 (some (.checked longEncoding)) .null false).perform plainWorld).1 = .ok [] ∧
      ((build 0 (Subject.single (.unopened (.text "in.mp4"))).toSource (.text "out.mp4")
        (some (.checked longEncoding)) .null false).perform plainWorld).1 =
          .error (.wrongValue .unwritable)) ∧
    ((overriddenWorld.pipeline 0).context = some 0 ∧
      (∀ number ∈ (overriddenWorld.pipeline 0).filters,
        (overriddenWorld.filter number).HasIntegerPriority) ∧
      (Filter.tag ("t", 0)).InheritsSingle ∧
      (Filter.tag ("t", 0)).assign "apply" (.int 5) = .ok overriddenTag ∧
      ((compile 0 none .null false).perform overriddenWorld).1 =
        .ok [.text "-tag", .text "t"] ∧
      ((build 0 (Subject.single (.unopened (.text "in.mp4"))).toSource (.text "out.mp4")
        none .null false).perform overriddenWorld).1 =
          .error (.wrongType (.behaviour "int"))) := by
  constructor
  · have bound : (plainWorld.pipeline 0).context = some 0 := rfl
    have arranges : Filter.arrange plainWorld.filter (plainWorld.pipeline 0).filters =
        .ok [] := by
      simp [plainWorld, World.pipeline, Filter.arrange]
    refine ⟨bound, fun _ member => (List.not_mem_nil member).elim, ?_, ?_⟩
    · rw [perform_compile_of_arrange arranges]
      rfl
    · have performed := perform_build_single bound arranges ⟨"in.mp4"⟩ (.text "out.mp4")
        (some longEncoding) .null false
      rw [encodingArguments?_longEncoding] at performed
      exact congrArg (·.1) performed
  · have bound : (overriddenWorld.pipeline 0).context = some 0 := rfl
    have integral : (overriddenWorld.filter 0).HasIntegerPriority := (Filter.rank_of_priority rfl).1
    have arranges : Filter.arrange overriddenWorld.filter (overriddenWorld.pipeline 0).filters =
        .ok [0] := by
      have all : [0].all (fun item => (overriddenWorld.filter item).integerPriority?.isSome) :=
        rfl
      exact (if_pos all).trans (congrArg Except.ok (List.mergeSort_singleton 0))
    refine ⟨bound, ?_, ⟨rfl, rfl⟩, rfl, ?_, ?_⟩
    · intro number member
      obtain rfl := List.mem_singleton.mp member
      exact integral
    · rw [perform_compile_of_arrange arranges]
      rfl
    · exact congrArg (·.1) (perform_build_single bound arranges ⟨"in.mp4"⟩ (.text "out.mp4") none
        .null false)

end Pipeline
end Filtergraph
