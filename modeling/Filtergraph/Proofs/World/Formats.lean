import Filtergraph.Filter.Literal
import Filtergraph.Proofs.World.Pipelines

/-!
# Formats of commands

A command with several inputs can be asked for in another format than the one that goes with the
inputs.  The codec arguments are then those of the format that is asked for, but filters that do
nothing of their own with several inputs contribute what they compile to for the other one.  Both
are the same only as long as the filters compile alike for the two formats.
-/

namespace Filtergraph

namespace Filter

/-- The filter does nothing of its own with several inputs. -/
def InheritsMultiple (filter : Filter) : Prop :=
  filter.holdings.multiple = none ∧ filter.ownMultiple = none

/-- Such a filter contributes its fragment for the format that goes with the inputs. -/
theorem InheritsMultiple.multiple_eq
    {filter : Filter}
    (inherits : filter.InheritsMultiple)
    (inputs : Inputs) :
    filter.multiple inputs = filter.fragment inputs.format := by
  rw [multiple, inherits.1, inherits.2]

end Filter

namespace Pipeline

variable {world after : World}
variable {id : PipelineId}
variable {context : ContextId}
variable {inputs : Inputs}

/-- The command of several inputs with given contributions and codec arguments. -/
def severalCommand
    (encoder : Argument)
    (inputs : Inputs)
    (output : Argument)
    (codec contributed : List Argument) : List Argument :=
  [encoder, .text "-y"] ++ inputs.arguments ++ contributed ++ codec ++ [output]

/-- Outcomes that make the same command are the same. -/
theorem map_severalCommand_inj
    {encoder output : Argument}
    {codec : List Argument}
    {outcome outcomeToo : Except Failure (List Argument)} :
    outcome.map (severalCommand encoder inputs output codec) =
        outcomeToo.map (severalCommand encoder inputs output codec) ↔
      outcome = outcomeToo := by
  cases outcome <;> cases outcomeToo <;> simp [Except.map, severalCommand]

/-- With several inputs, what is built holds what the pipeline compiles to for the format that goes
with the inputs, whatever format is asked for. -/
theorem build_several_outcome
    (obtained : (obtainContext id).perform world = (.ok context, after))
    (inherits : ∀ number ∈ (world.pipeline id).filters, (world.filter number).InheritsMultiple)
    (output : Argument)
    (format : Option Format)
    (tool : Value)
    (strict : Bool) :
    ((build id (.several inputs) output format tool strict).perform world).1 =
      ((compile id inputs.format tool strict).perform world).1 >>= fun contributed =>
        (codecArguments (format <|> inputs.format)).map fun codec =>
          severalCommand (after.context context).encoder inputs output codec contributed := by
  have compiled : ((compile id inputs.format tool strict).perform world).1 = _ :=
    Filter.compile_outcome world.filter (world.pipeline id).filters inputs.format tool strict
  rw [build_outcome obtained, compiled]
  cases orders : (Filter.ordered world.filter (world.pipeline id).filters tool strict).outcome with
  | error failure => rfl
  | ok inOrder =>
      have perm := Filter.arrange_perm (Filter.ordered_outcome_eq_ok_iff.mp orders).1
      have same : Filter.gather ((Source.several inputs).contribution format)
          (inOrder.map world.filter) =
            Filter.gather (fun filter => filter.fragment inputs.format)
              (inOrder.map world.filter) := by
        apply Filter.gather_congr
        intro filter member
        obtain ⟨number, there, rfl⟩ := List.mem_map.mp member
        exact (inherits number (perm.mem_iff.mp there)).multiple_eq inputs
      change assemble _ _ _ _ _ = Filter.gather _ _ >>= _
      rw [assemble, same]
      cases Filter.gather (fun filter => filter.fragment inputs.format)
        (inOrder.map world.filter) with
      | error failure => rfl
      | ok contributed =>
          change codecArguments (format <|> inputs.format) >>= _ = Except.map _ _
          cases codecArguments (format <|> inputs.format) <;> rfl

/-- Where the format that is asked for, or else the one that goes with the inputs, has codec
arguments, a command holds what the filters compile to for that same format exactly if they compile
alike for the one that goes with the inputs. -/
theorem build_compiles_for_codec_format_iff
    {format : Option Format}
    {codec : List Argument}
    (obtained : (obtainContext id).perform world = (.ok context, after))
    (inherits : ∀ number ∈ (world.pipeline id).filters, (world.filter number).InheritsMultiple)
    (encoded : codecArguments (format <|> inputs.format) = .ok codec)
    (output : Argument)
    (tool : Value)
    (strict : Bool) :
    ((build id (.several inputs) output format tool strict).perform world).1 =
        ((compile id (format <|> inputs.format) tool strict).perform world).1.map
          (severalCommand (after.context context).encoder inputs output codec) ↔
      ((compile id inputs.format tool strict).perform world).1 =
        ((compile id (format <|> inputs.format) tool strict).perform world).1 := by
  have built : ((build id (.several inputs) output format tool strict).perform world).1 =
      ((compile id inputs.format tool strict).perform world).1.map
        (severalCommand (after.context context).encoder inputs output codec) := by
    rw [build_several_outcome obtained inherits, encoded]
    cases ((compile id inputs.format tool strict).perform world).1 <;> rfl
  rw [built]
  exact map_severalCommand_inj

/-- The encoding that goes with some inputs. -/
def usualEncoding : Encoding where
  profile := .vp9
  quality := some 32

/-- Another encoding that can be asked for. -/
def otherEncoding : Encoding where
  profile := .h264
  quality := some 18
  preset := some "medium"

/-- The codec arguments of the encoding that goes with the inputs. -/
def usualCodec : List Argument :=
  ["-c:v", "libvpx-vp9", "-crf", "32", "-b:v", "0"].map .text

/-- The codec arguments of the other encoding. -/
def otherCodec : List Argument :=
  ["-c:v", "libx264", "-crf", "18", "-preset", "medium", "-pix_fmt", "yuv420p"].map .text

/-- An input with its encoding. -/
def encodedInputs : Inputs :=
  ⟨["a.mp4"], some (.checked usualEncoding)⟩

/-- A world with one pipeline, whose filter tells the format it is compiled for. -/
def tellingWorld : World where
  contexts := [{
    encoder := .text "ffmpeg"
    prober := .text "ffprobe"
    logger := defaultLogger
    runner := ⟨defaultLogger, .null⟩ }]
  filters := [({ name := .text "t", echoes := true } : Literal).toFilter {}]
  pipelines := [{ context := some 0, filters := [0] }]

theorem obtainContext_tellingWorld :
    (obtainContext 0).perform tellingWorld = (.ok 0, tellingWorld) := rfl

theorem inheritsMultiple_tellingWorld :
    ∀ number ∈ (tellingWorld.pipeline 0).filters,
      (tellingWorld.filter number).InheritsMultiple := by
  intro number member
  obtain rfl : number = 0 := List.mem_singleton.mp member
  exact ⟨rfl, rfl⟩

/-- The filter tells the kind of the format it is compiled for. -/
theorem compile_tellingWorld (encoding : Encoding) :
    ((compile 0 (some (.checked encoding)) .null false).perform tellingWorld).1 =
      .ok [.text "-tag", .text "t", .text "fmt", .text encoding.profile.name] := by
  have arranges : Filter.arrange tellingWorld.filter [0] = .ok [0] := by
    rw [Filter.arrange, List.mergeSort_singleton]
    rfl
  exact congrArg Report.outcome
    (Filter.compile_eq arranges (some (.checked encoding)) .null false)

/-- Where no format is asked for, the filter is compiled for the one that is encoded. -/
theorem build_without_format :
    (obtainContext 0).perform tellingWorld = (.ok 0, tellingWorld) ∧
      (∀ number ∈ (tellingWorld.pipeline 0).filters,
        (tellingWorld.filter number).InheritsMultiple) ∧
      codecArguments encodedInputs.format = .ok usualCodec ∧
      ((build 0 (.several encodedInputs) (.text "out.mp4") none .null false).perform
          tellingWorld).1 =
        ((compile 0 encodedInputs.format .null false).perform tellingWorld).1.map
          (severalCommand (.text "ffmpeg") encodedInputs (.text "out.mp4") usualCodec) :=
  ⟨obtainContext_tellingWorld, inheritsMultiple_tellingWorld, rfl,
    (build_compiles_for_codec_format_iff obtainContext_tellingWorld inheritsMultiple_tellingWorld
      rfl (.text "out.mp4") .null false).mpr rfl⟩

/-- Where another format is asked for, the codec arguments are those of that format, but the filter
is not compiled for it. -/
theorem build_with_other_format :
    codecArguments (some (.checked otherEncoding)) = .ok otherCodec ∧
    ((build 0 (.several encodedInputs) (.text "out.mp4") (some (.checked otherEncoding)) .null
        false).perform tellingWorld).1 ≠
      ((compile 0 (some (.checked otherEncoding)) .null false).perform tellingWorld).1.map
        (severalCommand (.text "ffmpeg") encodedInputs (.text "out.mp4") otherCodec) := by
  have built : ((build 0 (.several encodedInputs) (.text "out.mp4")
      (some (.checked otherEncoding)) .null false).perform tellingWorld).1 =
        (Except.ok [.text "-tag", .text "t", .text "fmt", .text "vp9"]).map
          (severalCommand (.text "ffmpeg") encodedInputs (.text "out.mp4") otherCodec) := by
    have compiled : ((compile 0 encodedInputs.format .null false).perform tellingWorld).1 =
        .ok [.text "-tag", .text "t", .text "fmt", .text "vp9"] :=
      compile_tellingWorld usualEncoding
    rw [build_several_outcome obtainContext_tellingWorld inheritsMultiple_tellingWorld, compiled]
    rfl
  refine ⟨rfl, ?_⟩
  rw [built, compile_tellingWorld otherEncoding]
  intro same
  have contributions := Except.ok.inj (map_severalCommand_inj.mp same)
  simp [otherEncoding, Profile.name] at contributions

end Pipeline
end Filtergraph
