import Filtergraph.Demo
import Filtergraph.Proofs.Demo.Deeds
import Filtergraph.Proofs.Overlay.Creation
import Filtergraph.Proofs.World.RunFailures

/-!
# Presenting a command

The demonstration puts the filter of its watermark into a pipeline of its own, shows the command of
that pipeline and runs it.  Showing the command makes the usual context, with one call for each of
its tools; running it takes one call for the release and one for the command itself, whose words
are the ones that were shown.
-/

namespace Filtergraph

open World

namespace Demo

/-- The watermark of a picture. -/
def watermark (picture : String) : Watermark where
  path := picture
  placement := placement
  size := some ⟨some 64, some 64⟩
  window := window

/-- The filter of the watermark. -/
def filter (picture : String) : Filter :=
  (watermark picture).toFilter (.int 0)

/-- The graph that draws the watermark. -/
def graph (picture : String) : String :=
  "movie=" ++ picture ++ ",scale=64:64 [watermark]; [in][watermark] " ++
    "overlay=main_w - 10 - overlay_w:main_h - 10 - overlay_h :enable='between(t,1,4)' [out]"

/-- The words of the command. -/
def command (input picture output : String) : List String :=
  ["ffmpeg", "-y", "-i", input, "-vf", graph picture, "-c:v", "libx264", "-crf", "20",
    "-preset", "medium", "-pix_fmt", "yuv420p", output]

/-- The call of a command: its arguments are the words of the command, and it has no time limit. -/
def commandCall (words : List String) : Call where
  arguments := words.map .text
  limit := .null
  detached := true

/-- The calls, if each leads on to the next one. -/
def calls (words : List String) : List Call :=
  [releaseCall Context.defaultEncoder, releaseCall Context.defaultProber,
    releaseCall Context.defaultEncoder, commandCall words]

/-- What is left to do once there is a pipeline: its command is shown and run. -/
def present (id : PipelineId) (input output : String) : Action Unit := do
  let command ← Pipeline.dryRun id (.single ⟨input⟩) (.text output) (some format)
  Action.say ("Command: " ++ command)
  let _ ← Pipeline.run id (.single ⟨input⟩) (.text output) (some format) false
  Action.say "✅ Watermark applied!"
  Action.say ("Output saved to: " ++ output)

section Command

variable {world after : World}
variable {id : PipelineId}
variable {context : ContextId}
variable {picture : String}

/-- The only filter of a pipeline comes first. -/
theorem ordered_of_alone
    (alone : world.pipelineFilters id = [filter picture])
    (tool : Value)
    (strict : Bool) :
    ∃ number, world.filter number = filter picture ∧
      Filter.ordered world.filter (world.pipeline id).filters tool strict =
        (Filter.releaseCheck tool strict [filter picture]).andThen fun _ => pure [number] := by
  obtain ⟨number, holds, same⟩ := List.map_eq_singleton_iff.mp alone
  have arranges : Filter.arrange world.filter [number] = .ok [number] := by
    have integral : [number].all (fun item => (world.filter item).integerPriority?.isSome) := by
      rw [List.all_cons, same]
      rfl
    rw [Filter.arrange, if_pos integral, List.mergeSort_singleton]
  refine ⟨number, same, ?_⟩
  rw [holds, Filter.ordered_eq arranges, List.map_singleton, same]

/-- The filter of the watermark contributes its graph. -/
theorem single_filter (input : Input) (picture : String) (format : Option Format) :
    (filter picture).single input format = .ok (some [.text "-vf", .text (graph picture)]) := by
  have drawn : (watermark picture).fragment? = some ["-vf", graph picture] := by
    have written : (watermark picture).graph? = some {
        picture, scaling := .sides ⟨64, by decide⟩ ⟨64, by decide⟩, x := "main_w - 10 - overlay_w"
        y := "main_h - 10 - overlay_h", gate := .between "1" "4" } := rfl
    have scales : (Scaling.sides ⟨64, by decide⟩ ⟨64, by decide⟩).clause = ",scale=64:64" := rfl
    have opens : Gate.clause (Gate.between "1" "4").predicate = " :enable='between(t,1,4)'" := rfl
    rw [Watermark.fragment?, written, graph]
    simp [Graph.render, scales, opens, String.append_assoc]
  have contributes : (filter picture).single input format = (filter picture).fragment format := rfl
  rw [contributes, filter, Watermark.fragment_toFilter, drawn]
  rfl

/-- A usual tool, the filter of the watermark and the format make the command. -/
theorem assemble_alone (input picture output : String) :
    assemble Context.defaultEncoder (.single ⟨input⟩) (.text output) (some format)
      [filter picture] = .ok ((command input picture output).map .text) := by
  have contributed : (Source.single ⟨input⟩).contribution (some format) (filter picture) =
      .ok (some [.text "-vf", .text (graph picture)]) := single_filter (.video ⟨input⟩) picture _
  rw [assemble, Filter.gather, contributed]
  rfl

/-- Where the pipeline gets the usual context, the check alone can keep the command from being
built. -/
theorem build_outcome_of_alone
    (alone : world.pipelineFilters id = [filter picture])
    (obtained : (Pipeline.obtainContext id).perform world = (.ok context, after))
    (encoder : (after.context context).encoder = Context.defaultEncoder)
    (input output : String)
    (tool : Value)
    (strict : Bool) :
    ((Pipeline.build id (.single ⟨input⟩) (.text output) (some format) tool strict).perform
      world).1 = (Filter.releaseCheck tool strict [filter picture]).outcome.map fun _ =>
        (command input picture output).map .text := by
  obtain ⟨number, same, ordered⟩ := ordered_of_alone alone tool strict
  rw [Pipeline.build_outcome obtained, ordered, encoder, Report.andThen_outcome]
  cases (Filter.releaseCheck tool strict [filter picture]).outcome with
  | error failure => rfl
  | ok _ =>
      change assemble _ _ _ _ ([number].map world.filter) = _
      rw [List.map_singleton, same, assemble_alone]
      rfl

end Command

/-! ## Running the command -/

/-- A pipeline runs in the usual context, whatever is known of its release, and holds the filter of
the watermark alone. -/
structure Ready
    (world : World)
    (id : PipelineId)
    (context : ContextId)
    (picture : String) : Prop where
  settled : Pipeline.Settled world id context
  usual : (world.context context).original = Context.usual
  alone : world.pipelineFilters id = [filter picture]

section Running

variable {world : World}
variable {id : PipelineId}
variable {context : ContextId}
variable {picture : String}

namespace Ready

theorem encoder_eq (ready : Ready world id context picture) :
    (world.context context).encoder = Context.defaultEncoder :=
  congrArg Context.encoder ready.usual

theorem line (ready : Ready world id context picture) (text : String) :
    Ready (world.record (.line text)) id context picture where
  settled := ready.settled.of_sameBindings ⟨rfl, rfl⟩
  usual := ready.usual
  alone := ready.alone

/-- Asking for the release changes no more than what is known of it. -/
theorem askRelease (ready : Ready world id context picture) :
    Ready ((Context.askRelease context).perform world).2 id context picture where
  settled := ready.settled.of_sameBindings (Context.sameBindings_askRelease context world)
  usual := ((continues_askRelease context world).original_eq context).trans ready.usual
  alone := ((Context.prepares_askRelease context world).pipelineFilters_eq id).trans ready.alone

/-- Building the command leaves notes, and the check alone decides whether it is built. -/
theorem perform_build
    (ready : Ready world id context picture)
    (input output : String)
    (tool : Value)
    (strict : Bool) :
    ∃ logger notes,
      (Pipeline.build id (.single ⟨input⟩) (.text output) (some format) tool strict).perform world =
        ((Filter.releaseCheck tool strict [filter picture]).outcome.map fun _ =>
          (command input picture output).map .text, world.afterNotes logger notes) := by
  have built := build_outcome_of_alone ready.alone ready.settled.obtain ready.encoder_eq input
    output tool strict
  obtain ⟨logger, notes, left⟩ := ready.settled.build_leaves_notes (.single ⟨input⟩)
    (.text output) (some format) tool strict
  exact ⟨logger, notes, Prod.ext built left⟩

end Ready

end Running

end Demo
end Filtergraph
