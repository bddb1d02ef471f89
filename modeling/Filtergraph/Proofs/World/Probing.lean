import Filtergraph.Proofs.Media.Descriptions
import Filtergraph.Proofs.World.Effects
import Filtergraph.World.Probe
import Mathlib.Data.List.Defs

/-!
# Outcomes of probing

Probing a file leaves everything but the path unknown where the probing tool does not answer in
time, fails, or prints what is no JSON.  What it prints besides has to be a description that tells
about the file: other JSON, and descriptions whose members have other types, make probing fail.
-/

namespace Filtergraph

open World

/-- A file of which nothing but the path is known. -/
def Asset.unknown (path : String) : Asset where
  path := path

/-- What is known about a file after a call of the probing tool, whose report is read down to a
limit of its depth. -/
inductive Probed (depthLimit : Nat) (path : String) : Outcome -> Asset -> Prop where
  | expired : Probed depthLimit path .expired (.unknown path)
  | failed
      {status : Word}
      {output errors : Option String}
      (failure : isSuccess status = false) :
      Probed depthLimit path (.finished status output errors) (.unknown path)
  | unreadable
      {status : Word}
      {output : String}
      {errors : Option String}
      (success : isSuccess status = true)
      (noJson : Json.read depthLimit output = .error .unreadable) :
      Probed depthLimit path (.finished status (some output) errors) (.unknown path)
  | described
      {status : Word}
      {description : Value}
      {output : String}
      {errors : Option String}
      {asset : Asset}
      (success : isSuccess status = true)
      (read : Json.read depthLimit output = .ok description)
      (describes : Description.Describes description path asset) :
      Probed depthLimit path (.finished status (some output) errors) asset

namespace Probed

variable {depthLimit : Nat}
variable {path : String}
variable {outcome : Outcome}
variable {asset : Asset}

/-- What a tool that fails prints is not looked at. -/
theorem finished_iff_of_failure
    {status : Word}
    {output errors : Option String}
    (failure : isSuccess status = false) :
    Probed depthLimit path (.finished status output errors) asset ↔ .unknown path = asset := by
  constructor
  · intro probed
    cases probed with
    | failed => rfl
    | unreadable success => cases failure.symm.trans success
    | described success => cases failure.symm.trans success
  · rintro rfl
    exact .failed failure

/-- Whatever else is known, the path is. -/
theorem path_eq (probed : Probed depthLimit path outcome asset) : asset.path = path := by
  cases probed with
  | described _ _ describes => exact describes.1
  | _ => rfl

end Probed

namespace Context

/-- Probing in vain leaves a note, and nothing but the path is known. -/
theorem perform_probeInVain (logger message path : String) (world : World) :
    (probeInVain logger message (.text path)).perform world =
      (.ok (.unknown path), world.record (.note logger ⟨.warning, message⟩)) := rfl

/-- What a tool that succeeds prints is read for what it tells. -/
theorem readProbe_eq_ok_iff
    {depthLimit : Nat}
    {logger path : String}
    {status : Word}
    {output errors : Option String}
    {world : World}
    {asset : Asset}
    (success : isSuccess status = true) :
    ((readProbe depthLimit logger (.text path) output).perform world).1 = .ok asset ↔
      Probed depthLimit path (.finished status output errors) asset := by
  constructor
  · intro known
    cases output with
    | none => cases known
    | some printed =>
        rw [readProbe] at known
        cases read : Json.read depthLimit printed with
        | ok description =>
            rw [read] at known
            exact .described success read (Description.toAsset_eq_ok_iff.mp known)
        | error problem =>
            rw [read] at known
            cases problem with
            | unreadable =>
                obtain rfl := Except.ok.inj known
                exact .unreadable success read
            | _ => cases known
  · intro probed
    cases probed with
    | failed failure => cases failure.symm.trans success
    | unreadable _ noJson =>
        rw [readProbe, noJson]
        rfl
    | described _ read describes =>
        rw [readProbe, read]
        exact Description.toAsset_eq_ok_iff.mpr describes

/-- What is known does not depend on the context or on what happened before, but only on how the
call ends. -/
theorem probe_eq_ok_iff
    {world : World}
    {id : ContextId}
    {path : String}
    {asset : Asset} :
    ((probe id (.text path)).perform world).1 = .ok asset ↔
      Probed world.depthLimit path world.nextOutcome asset := by
  rw [probe, Action.perform_bind, Action.perform_get]
  dsimp only
  rw [Action.perform_bind, Action.perform_call]
  dsimp only
  change _ ↔ Probed world.depthLimit path (world.script.head?.getD .silent) asset
  cases world.script.head?.getD .silent with
  | finished status output errors =>
      dsimp only
      cases ended : isSuccess status with
      | false =>
          rw [if_neg Bool.false_ne_true, perform_probeInVain, Except.ok.injEq,
            Probed.finished_iff_of_failure ended]
      | true => rw [if_pos rfl, readProbe_eq_ok_iff ended]
  | expired =>
      rw [perform_probeInVain, Except.ok.injEq]
      constructor
      · rintro rfl
        exact .expired
      · intro probed
        cases probed
        rfl
  | _ =>
      constructor
      · intro failed
        cases failed
      · intro probed
        cases probed

/-- Probing makes a file known exactly where the outcome of the call allows it, however deep reports
are read, and what is known belongs to the path that was asked for. -/
theorem probe_known_iff (world : World) (id : ContextId) (path : String) :
    (∀ asset, ((probe id (.text path)).perform world).1 = .ok asset ↔
        Probed world.depthLimit path world.nextOutcome asset) ∧
      ∀ asset, ((probe id (.text path)).perform world).1 = .ok asset -> asset.path = path :=
  ⟨fun _ => probe_eq_ok_iff, fun _ known => (probe_eq_ok_iff.mp known).path_eq⟩

/-- A description of a video whose duration is not available. -/
def unavailableDuration : String :=
  "\x7b\"streams\":[\x7b\"codec_type\":\"video\",\"duration\":\"N/A\"\x7d]\x7d"

/-- A world in which the probing tool prints that description. -/
def unavailableWorld : World where
  script := [.succeeded (some unavailableDuration) (some "")]
  contexts := [{
    encoder := .text "ffmpeg"
    prober := .text "ffprobe"
    logger := defaultLogger
    runner := ⟨defaultLogger, .null⟩ }]

theorem read_unavailableDuration :
    Json.read 1000 unavailableDuration =
      .ok (.table [("streams", .list [.table [("codec_type", .text "video"),
        ("duration", .text "N/A")]])]) := by
  cbv

/-- Probing fails although the call has succeeded and only the duration cannot be read. -/
theorem probe_fails_without_duration :
    unavailableWorld.nextOutcome = .succeeded (some unavailableDuration) (some "") ∧
      ∀ asset, ((probe 0 (.text "a.mp4")).perform unavailableWorld).1 ≠ .ok asset := by
  refine ⟨rfl, ?_⟩
  intro asset known
  have fails : ((probe 0 (.text "a.mp4")).perform unavailableWorld).1 =
      .error (.wrongValue (.double "N/A")) := by
    change ((readProbe 1000 defaultLogger (.text "a.mp4")
      (some unavailableDuration)).perform _).1 = _
    rw [readProbe, read_unavailableDuration]
    rfl
  cases fails.symm.trans known

end Context
end Filtergraph
