import Filtergraph.Proofs.Order.Permutation
import Filtergraph.Proofs.Session.Catalogue
import Filtergraph.Proofs.Session.Soundness

/-!
# Watermarks over runs

A filter stays what it is as long as only those of its properties are given new values that cannot
be.  The filter of a watermark comes to the same wherever it stands, to its arguments or, if its
settings cannot be written, to a failure.  So from its making on it comes to what it did then,
whatever becomes of the file of the picture.
-/

namespace Filtergraph

/-- A filter comes to the same outcome, arguments or a failure, wherever it stands, and some of its
properties cannot be given new values. -/
structure Filter.Constant
    (filter : Filter)
    (outcome : Except Failure (List Argument))
    (properties : List String) : Prop where
  fragment : ∀ format, filter.fragment format = outcome.map some
  single : ∀ input format, filter.single input format = outcome.map some
  multiple : ∀ inputs, filter.multiple inputs = outcome.map some
  readOnly : ∀ property ∈ properties, ∀ value,
    filter.assign property value = .error (.wrongAttribute (.readOnly property filter.typeName))

/-- A filter that does the same everywhere is constant if the format does not matter to it. -/
theorem Filter.Uniform.constant
    {filter : Filter}
    {outcome : Except Failure (List Argument)}
    (uniform : filter.Uniform)
    (fragment : ∀ format, filter.fragment format = outcome.map some) :
    filter.Constant outcome filter.fixed where
  fragment := fragment
  single := fun input format => (uniform.1 input format).trans (fragment format)
  multiple := fun inputs => (uniform.2 inputs).trans (fragment inputs.format)
  readOnly := fun _ fixed value => Filter.assign_of_fixed fixed value

namespace Watermark

/-- The properties of the filter of a watermark. -/
def properties : List String :=
  ["name", "priority", "watermark_path", "coordinates", "scale", "time"]

/-- What drawing a watermark comes to. -/
def drawn (watermark : Watermark) : Except Failure (List Argument) :=
  (Failure.written watermark.fragment?).map fun texts => texts.map .text

/-- Drawing fails only where a setting cannot be written. -/
theorem eq_unwritable_of_drawn
    {watermark : Watermark}
    {failure : Failure}
    (fails : watermark.drawn = .error failure) :
    failure = .wrongValue .unwritable := by
  rw [drawn] at fails
  cases written : watermark.fragment? with
  | none =>
      rw [written] at fails
      exact (Except.error.inj fails).symm
  | some texts =>
      rw [written] at fails
      cases fails

/-- The filter of a watermark comes to what drawing the watermark comes to. -/
theorem constant_toFilter (watermark : Watermark) (priority : Value) :
    (watermark.toFilter priority).Constant watermark.drawn properties := by
  refine (watermark.plain_toFilter priority).uniform.constant ?_
  intro format
  rw [fragment_toFilter, drawn]
  cases watermark.fragment? <;> rfl

end Watermark

/-- A filter that is asked for as one of a watermark is that. -/
theorem FilterRequest.watermark_of_resolve
    {files : FileTree}
    {path : Draft}
    {coordinates scale time priority : Option Draft}
    {filter : Filter}
    (resolves : FilterRequest.resolve files (.watermark path coordinates scale time priority) =
      .ok filter) :
    ∃ (watermark : Watermark) (key : Value), filter = watermark.toFilter key := by
  obtain ⟨path, -, resolves⟩ := bind_eq_ok_iff.mp resolves
  obtain ⟨coordinates, -, resolves⟩ := bind_eq_ok_iff.mp resolves
  obtain ⟨scale, -, resolves⟩ := bind_eq_ok_iff.mp resolves
  obtain ⟨time, -, resolves⟩ := bind_eq_ok_iff.mp resolves
  obtain ⟨key, -, resolves⟩ := bind_eq_ok_iff.mp resolves
  obtain ⟨watermark, -, same⟩ := bind_eq_ok_iff.mp resolves
  exact ⟨watermark, key, (Except.ok.inj same).symm⟩

/-- If an operation gives a property of a filter a new value, it is one of some properties. -/
def Operation.AssignsOnly (session : Session) (id : FilterId) (properties : List String) :
    Operation -> Prop
  | .assign filter property _ => session.filters.lookup filter = some id -> property ∈ properties
  | _ => True

theorem Operation.AssignsOnly.mem_of_kinds
    {session : Session}
    {id : FilterId}
    {properties : List String}
    {operation : Operation}
    {property : String}
    (only : operation.AssignsOnly session id properties)
    (assigns : .property id property ∈ operation.kinds session) :
    property ∈ properties := by
  cases operation with
  | assign filter other draft =>
      obtain ⟨found, stands, same⟩ := mem_kinds_assign.mp assigns
      obtain ⟨rfl, rfl⟩ := Session.Kind.property.inj same
      exact only stands
  | add pipeline names => simp [mem_kinds_add] at assigns
  | newContext _ _ _ _ _ | newRunner _ _ _ | newFilter _ _ | writeFile _ | removeFile _
  | newPipeline _ _ => simp [kinds] at assigns
  | _ => cases sparesCatalogue_kinds rfl session _ assigns

namespace Session

open SessionAction World

variable {session : Session}
variable {id : FilterId}
variable {properties : List String}

/-- In a run, no other properties of a filter are given new values than some. -/
def AssignsOnly (session : Session) (id : FilterId) (properties : List String) :
    List (Operation × List Outcome) -> Prop
  | [] => True
  | (operation, script) :: rest =>
    operation.AssignsOnly session id properties ∧
      (session.step operation script).2.AssignsOnly id properties rest

/-! ## Filters that stay -/

theorem filter_step
    {operation : Operation}
    (there : id < session.world.filters.length)
    (only : operation.AssignsOnly session id (session.world.filter id).fixed)
    (script : List Outcome) :
    let after := (session.step operation script).2
    id < after.world.filters.length ∧ after.world.filter id = session.world.filter id := by
  have onlyReady : operation.AssignsOnly (session.ready script) id
      (session.world.filter id).fixed := by
    cases operation with
    | assign _ _ _ => exact only
    | _ => trivial
  exact (changes_step session operation script).filter_eq there fun _ => onlyReady.mem_of_kinds

theorem filter_run
    (operations : List (Operation × List Outcome))
    (there : id < session.world.filters.length)
    (only : session.AssignsOnly id (session.world.filter id).fixed operations) :
    (session.run operations).2.world.filter id = session.world.filter id := by
  induction operations generalizing session with
  | nil => rfl
  | cons entry rest inductionHypothesis =>
      obtain ⟨operation, script⟩ := entry
      obtain ⟨first, others⟩ := only
      obtain ⟨thereToo, same⟩ := filter_step there first script
      rw [run_cons, inductionHypothesis thereToo (same ▸ others), same]

/-! ## What operations on filters come to -/

/-- The answer that tells what a filter comes to; nothing is done for it. -/
def contributionAnswer (outcome : Except Failure (List Argument)) : Answer :=
  ⟨outcome.map fun arguments => .contribution (some arguments), []⟩

/-- Operations on a name come to what they do for a filter that always comes to the same. -/
structure Answers
    (session : Session)
    (name : String)
    (outcome : Except Failure (List Argument))
    (properties : List String)
    (typeName : String) : Prop where
  fragment : ∀ request format script,
    FormatRequest.resolveOption request = .ok format ->
    session.step (.fragment name request) script =
      (contributionAnswer outcome, session.ready script)
  single : ∀ source input request format script,
    source.resolve = .ok (.single input) ->
    FormatRequest.resolveOption request = .ok format ->
    session.step (.apply name source request) script =
      (contributionAnswer outcome, session.ready script)
  multiple : ∀ source inputs request script,
    source.resolve = .ok (.several inputs) ->
    session.step (.apply name source request) script =
      (contributionAnswer outcome, session.ready script)
  readOnly : ∀ property ∈ properties, ∀ draft value script,
    draft.resolve = .ok value ->
    session.step (.assign name property draft) script =
      (⟨.error (.wrongAttribute (.readOnly property typeName)), []⟩, session.ready script)

/-- The filter of a name is found, and finding it changes nothing. -/
theorem reads_findFilter
    {name : String}
    (stands : session.filters.lookup name = some id) :
    Reads (findFilter name) session (.ok (session.world.filter id)) := by
  intro usual
  rw [findFilter, perform_bind, reads_find_of_stands (fun _ => rfl) stands usual]
  rfl

/-- What a filter comes to is replied as it is. -/
theorem perform_contribution
    {contribution : Contribution}
    {outcome : Except Failure (List Argument)}
    (same : contribution = outcome.map some)
    (session : Session) :
    (act (.ofExcept contribution) >>= fun arguments => pure (.contribution arguments)).perform
      session = ((contributionAnswer outcome).outcome, session) := by
  rw [same]
  cases outcome <;> rfl

/-- A constant filter answers the same under each of its names. -/
theorem answers_of_constant
    {name : String}
    {outcome : Except Failure (List Argument)}
    (stands : session.filters.lookup name = some id)
    (constant : (session.world.filter id).Constant outcome properties) :
    session.Answers name outcome properties (session.world.filter id).typeName where
  fragment := by
    intro request format script formats
    have found : Reads _ (session.ready script) _ := reads_findFilter stands
    refine step_of_perform ?_ rfl
    refine (found.perform_bind_ok rfl).trans ?_
    refine ((reads_format request _).perform_bind_ok formats).trans ?_
    exact perform_contribution (constant.fragment format) _
  single := by
    intro source input request format script opens formats
    have found : Reads _ (session.ready script) _ := reads_findFilter stands
    refine step_of_perform ?_ rfl
    refine (found.perform_bind_ok rfl).trans ?_
    refine ((reads_ofExcept source.resolve _).perform_bind_ok opens).trans ?_
    refine ((reads_format request _).perform_bind_ok formats).trans ?_
    exact perform_contribution (constant.single input format) _
  multiple := by
    intro source inputs request script opens
    have found : Reads _ (session.ready script) _ := reads_findFilter stands
    refine step_of_perform ?_ rfl
    refine (found.perform_bind_ok rfl).trans ?_
    refine ((reads_ofExcept source.resolve _).perform_bind_ok opens).trans ?_
    exact perform_contribution (constant.multiple inputs) _
  readOnly := by
    intro property member draft value script resolves
    have found : Reads (find Session.filters name) (session.ready script) (.ok id) :=
      reads_find_of_stands (fun _ => rfl) stands
    refine step_of_perform ?_ rfl
    refine (found.perform_bind_ok rfl).trans ?_
    refine ((reads_value draft _).perform_bind_ok resolves).trans ?_
    exact (reads_ofExcept _ _).perform_bind_error (constant.readOnly property member value)

/-! ## The filter of a watermark -/

/-- A session in which one more filter has come into existence, under a name. -/
def withFilter (session : Session) (name : String) (filter : Filter) : Session where
  world := { session.world with filters := session.world.filters ++ [filter] }
  contexts := session.contexts
  runners := session.runners
  filters := session.filters.bind name session.world.filters.length
  pipelines := session.pipelines

theorem filter_withFilter (session : Session) (name : String) (filter : Filter) :
    (session.withFilter name filter).world.filter session.world.filters.length = filter := by
  rw [withFilter, World.filter, getD_concat, if_pos rfl]

theorem lookup_withFilter (session : Session) (name : String) (filter : Filter) :
    (session.withFilter name filter).filters.lookup name = some session.world.filters.length := by
  rw [withFilter, Names.lookup_bind, if_pos rfl]

/-- Making a filter succeeds only where the filter that is asked for can be made. -/
theorem newFilter_of_ok
    {after : Session}
    {name : String}
    {request : FilterRequest}
    {script : List Outcome}
    {answer : Answer}
    {reply : Reply}
    (steps : session.step (.newFilter name request) script = (answer, after))
    (made : answer.outcome = .ok reply) :
    ∃ filter, request.resolve session.world.files = .ok filter ∧ reply = .filter filter ∧
      after = (session.ready script).withFilter name filter := by
  have reads := reads_ofExcept (request.resolve (session.ready script).world.files)
    (session.ready script)
  cases resolved : request.resolve session.world.files with
  | error failure =>
      have fails : (Operation.perform (.newFilter name request)).perform (session.ready script) =
          (.error failure, session.ready script) := by
        rw [Operation.perform, perform_get_bind]
        exact reads.perform_bind_error resolved
      obtain ⟨rfl, rfl⟩ := Prod.mk.inj ((step_of_perform fails rfl).symm.trans steps)
      cases made
  | ok filter =>
      have succeeds : (Operation.perform (.newFilter name request)).perform (session.ready script) =
          (.ok (.filter filter), (session.ready script).withFilter name filter) := by
        rw [Operation.perform, perform_get_bind]
        exact reads.perform_bind_ok resolved
      obtain ⟨rfl, rfl⟩ := Prod.mk.inj ((step_of_perform succeeds rfl).symm.trans steps)
      exact ⟨filter, rfl, (Except.ok.inj made).symm, rfl⟩

/-- The filter of a watermark stays over any run what it was when it was made, if besides its
properties nothing of it is given a new value.  Whatever becomes of the file of the picture, it
comes to what it came to at first, for all formats and wherever it stands: to the same arguments, or
to the same failure if a setting cannot be written.  None of its properties can be given a new
value. -/
theorem watermark_over_runs
    {session after : Session}
    {name : String}
    {path : Draft}
    {coordinates scale time priority : Option Draft}
    {script : List Outcome}
    {answer : Answer}
    {reply : Reply}
    {later : List (Operation × List Outcome)}
    (steps : session.step (.newFilter name (.watermark path coordinates scale time priority))
      script = (answer, after))
    (made : answer.outcome = .ok reply)
    (only : after.AssignsOnly session.world.filters.length Watermark.properties later) :
    let id := session.world.filters.length
    let reached := (after.run later).2
    ∃ outcome,
      reply = .filter (after.world.filter id) ∧ after.filters.lookup name = some id ∧
      (after.world.filter id).fragment none = outcome.map some ∧
      (∀ failure, outcome = .error failure -> failure = .wrongValue .unwritable) ∧
      reached.world.filter id = after.world.filter id ∧
      (reached.world.filter id).Constant outcome Watermark.properties ∧
      ∀ other, reached.filters.lookup other = some id ->
        reached.Answers other outcome Watermark.properties Holdings.overlayTypeName := by
  intro id reached
  obtain ⟨filter, resolves, sameReply, left⟩ := newFilter_of_ok steps made
  obtain ⟨watermark, key, rfl⟩ := FilterRequest.watermark_of_resolve resolves
  have there : id < after.world.filters.length := by
    rw [left, withFilter, List.length_append]
    exact Nat.lt_succ_self id
  have held : after.world.filter id = watermark.toFilter key := by
    rw [left]
    exact filter_withFilter _ name _
  have stands : after.filters.lookup name = some id := by
    rw [left]
    exact lookup_withFilter _ name _
  have same : reached.world.filter id = watermark.toFilter key := by
    have fixed : (after.world.filter id).fixed = Watermark.properties := by
      rw [held]
      rfl
    rw [← held]
    exact filter_run later there (fixed ▸ only)
  have constant := watermark.constant_toFilter key
  refine ⟨watermark.drawn, held ▸ sameReply, stands, held ▸ constant.fragment none,
    fun _ => Watermark.eq_unwritable_of_drawn, same.trans held.symm, same ▸ constant, ?_⟩
  intro other standsFor
  have answers := answers_of_constant standsFor (same ▸ constant)
  rwa [same] at answers

/-- A session with a picture. -/
def withPicture : Session where
  world := { files := { files := [["logo.png"]] } }

/-- The path of the picture. -/
def picturePath : Draft := .plain (.text "logo.png")

/-- The picture is taken away, a property of the filter is to be given a new value, another filter
is asked for in vain, and the filter is used. -/
def afterPicture : List (Operation × List Outcome) :=
  [(.removeFile "logo.png", []), (.assign "w" "priority" (.plain (.int 5)), []),
    (.newFilter "v" (.watermark picturePath none none none none), []), (.newPipeline "p" none, []),
    (.add "p" ["w"], []), (.compile "p" none none none, [])]

/-- The arguments of a watermark of the picture. -/
def pictureArguments : List Argument :=
  [.text "-vf", .text "movie=logo.png [watermark]; [in][watermark] overlay=0:0 [out]"]

/-- Without the picture, the filter of a watermark still contributes the arguments for it. -/
theorem watermark_of_picture :
    ∃ answer after reply,
      withPicture.step (.newFilter "w" (.watermark picturePath none none none none)) [] =
        (answer, after) ∧
      answer.outcome = .ok reply ∧ after.AssignsOnly 0 Watermark.properties afterPicture ∧
      ∀ input format, ((after.run afterPicture).2.world.filter 0).single input format =
        .ok (some pictureArguments) := by
  have made : ∃ reply, (withPicture.step
      (.newFilter "w" (.watermark picturePath none none none none)) []).1.outcome = .ok reply :=
    ⟨_, rfl⟩
  have contributes : ((withPicture.step
      (.newFilter "w" (.watermark picturePath none none none none)) []).2.world.filter 0).fragment
        none = .ok (some pictureArguments) := rfl
  obtain ⟨reply, made⟩ := made
  rcases steps : withPicture.step (.newFilter "w" (.watermark picturePath none none none none)) []
    with ⟨answer, after⟩
  rw [steps] at made contributes
  have only : after.AssignsOnly 0 Watermark.properties afterPicture := by
    simp only [afterPicture, AssignsOnly, Operation.AssignsOnly, true_and, and_true]
    exact fun _ => by decide
  obtain ⟨outcome, -, -, first, -, -, constant, -⟩ := watermark_over_runs steps made only
  obtain ⟨arguments, rfl, same⟩ := map_eq_ok_iff.mp (first.symm.trans contributes)
  obtain rfl := Option.some.inj same
  exact ⟨answer, after, reply, rfl, made, only, constant.single⟩

end Session
end Filtergraph
