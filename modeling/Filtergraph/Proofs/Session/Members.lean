import Filtergraph.Proofs.Session.Catalogue

/-!
# The filters of pipelines over runs

A pipeline holds the filters that were added to it, in the order in which they were added.  What is
compiled, built or run leaves the filters of all pipelines as they are, and no trace in what is
compiled later.
-/

namespace Filtergraph

open World

namespace SessionAction

variable {action : SessionAction α}
variable {next : α -> SessionAction β}
variable {session : Session}

/-- In a session, an action comes to what a report tells and leaves no more than its notes. -/
def Reports (action : SessionAction α) (session : Session) (report : Report α) : Prop :=
  ∃ logger, action.perform session =
    (report.outcome, { session with world := session.world.afterNotes logger report.notes })

namespace Reports

/-- What is looked up first decides what is reported. -/
theorem after_lookup
    {outcome : Except Failure α}
    {report : α -> Report β}
    (reads : Reads action session outcome)
    (rest : ∀ a, Reports (next a) session (report a)) :
    Reports (action >>= next) session (Report.ofExcept outcome >>= report) := by
  rw [Reports, perform_bind, reads.perform_eq]
  cases outcome with
  | error failure =>
      refine ⟨pipelineLogger, ?_⟩
      change (Except.error failure, session) = (Except.error failure,
        { session with world := { session.world with trace := session.world.trace ++ [] } })
      rw [List.append_nil]
  | ok a => exact rest a

/-- Compiling a pipeline reports what compiling its filters comes to. -/
theorem compile
    (id : PipelineId)
    (format : Option Format)
    (tool : Value)
    (strict : Bool)
    (session : Session) :
    Reports (act (Pipeline.compile id format tool strict)) session
      (Filter.compile session.world.filter (session.world.pipeline id).filters format tool
        strict) :=
  ⟨session.world.loggerOfPipeline id, rfl⟩

protected theorem map
    {report : Report α}
    (reports : Reports action session report)
    (f : α -> β) :
    Reports (action >>= fun a => pure (f a)) session (report >>= fun a => pure (f a)) := by
  obtain ⟨logger, performed⟩ := reports
  refine ⟨logger, ?_⟩
  rw [perform_bind, performed]
  obtain ⟨notes, failure | a⟩ := report
  · rfl
  · change (Except.ok (f a), { session with world := session.world.afterNotes logger notes }) =
      (Except.ok (f a), { session with world := session.world.afterNotes logger (notes ++ []) })
    rw [List.append_nil]

end Reports
end SessionAction

namespace Session

open SessionAction

/-- The filters that an operation adds to a pipeline: those of the names that are given, up to the
first that is not known. -/
def adds (session : Session) (id : PipelineId) : Operation -> List FilterId
  | .add pipeline names =>
    if session.pipelines.lookup pipeline = some id then session.filters.lookupWhile names else []
  | _ => []

/-- The filters that are added to a pipeline in a run. -/
def addedOver (session : Session) (id : PipelineId) :
    List (Operation × List Outcome) -> List FilterId
  | [] => []
  | (operation, script) :: rest =>
    session.adds id operation ++ (session.step operation script).2.addedOver id rest

variable {session : Session}
variable {id : PipelineId}

/-! ## Catalogues over runs -/

theorem catalogue_step (session : Session) (operation : Operation) (script : List Outcome) :
    (session.step operation script).2.catalogue = session.catalogue.step operation script :=
  operation.catalogue_perform (session.ready script)

/-- A run makes of the catalogue what its operations and scripts tell. -/
theorem catalogue_run (session : Session) (operations : List (Operation × List Outcome)) :
    (session.run operations).2.catalogue = session.catalogue.run operations := by
  induction operations generalizing session with
  | nil => rfl
  | cons entry rest inductionHypothesis =>
      obtain ⟨operation, script⟩ := entry
      rw [run_cons, inductionHypothesis, catalogue_step]
      rfl

/-- A use of a pipeline leaves no trace in any later catalogue. -/
theorem catalogue_run_of_use
    {operation : Operation}
    (isUse : operation.isUse)
    (session : Session)
    (script : List Outcome)
    (between : List (Operation × List Outcome)) :
    ((session.step operation script).2.run between).2.catalogue =
      (session.run between).2.catalogue := by
  have unchanged : session.catalogue.step operation script = session.catalogue := by
    cases operation <;> first | rfl | cases isUse
  rw [catalogue_run, catalogue_run, catalogue_step, unchanged]

/-- What comes of compiling a pipeline is told by the catalogue. -/
theorem reports_compile
    (session : Session)
    (pipeline : String)
    (format : Option FormatRequest)
    (tool strict : Option Draft) :
    Reports (Operation.perform (.compile pipeline format tool strict)) session
      (session.catalogue.compiled pipeline format tool strict) := by
  refine .after_lookup (reads_find (fun _ => rfl) pipeline) ?_
  intro id
  refine .after_lookup (reads_format format session) ?_
  intro format
  refine .after_lookup (reads_valueOr .null tool session) ?_
  intro tool
  refine .after_lookup (reads_flag strict session) ?_
  intro strict
  rw [filter_catalogue, membersOf_catalogue]
  exact (Reports.compile id format tool strict session).map _

/-- What compiling comes to is told by the catalogue; only the logger of the notes is not. -/
theorem step_compile
    (session : Session)
    (pipeline : String)
    (format : Option FormatRequest)
    (tool strict : Option Draft)
    (script : List Outcome) :
    ∃ logger, (session.step (.compile pipeline format tool strict) script).1 =
      ⟨(session.catalogue.compiled pipeline format tool strict).outcome,
        (session.catalogue.compiled pipeline format tool strict).notes.map (.note logger)⟩ := by
  obtain ⟨logger, performed⟩ := reports_compile (session.ready script) pipeline format tool strict
  exact ⟨logger, congrArg Prod.fst (step_of_perform performed rfl)⟩

/-! ## Members -/

theorem membersOf_whenOk
    {catalogue : Catalogue}
    {outcome : Except Failure α}
    {change : α -> Catalogue}
    (same : ∀ a, (change a).membersOf id = catalogue.membersOf id) :
    (catalogue.whenOk outcome change).membersOf id = catalogue.membersOf id := by
  cases outcome with
  | error failure => rfl
  | ok a => exact same a

/-- Filters are added behind those of the pipeline, up to the first unknown name. -/
theorem membersOf_add
    (sound : session.Sound)
    (pipeline : String)
    (names : List String)
    (script : List Outcome)
    (id : PipelineId) :
    (session.catalogue.step (.add pipeline names) script).membersOf id =
      session.catalogue.membersOf id ++ session.adds id (.add pipeline names) := by
  have sameNames : session.catalogue.pipelineNames = session.pipelines := rfl
  rw [Catalogue.step, adds, sameNames]
  cases stands : session.pipelines.lookup pipeline with
  | none => exact (List.append_nil _).symm
  | some other =>
      have inside : other < session.catalogue.members.length := by
        have there := sound.pipelineNames pipeline other stands
        exact List.length_map Pipeline.filters ▸ there
      change (session.catalogue.members.set other (session.catalogue.membersOf other ++
        session.filters.lookupWhile names))[id]?.getD [] = _
      by_cases same : other = id
      · subst same
        rw [List.getElem?_set_self inside, if_pos rfl]
        rfl
      · rw [List.getElem?_set_ne same, if_neg fun found => same (Option.some.inj found),
          List.append_nil]
        rfl

/-- A step adds to a pipeline what it is told to add, behind what is there. -/
theorem filters_step
    (sound : session.Sound)
    (operation : Operation)
    (script : List Outcome)
    (id : PipelineId) :
    ((session.step operation script).2.world.pipeline id).filters =
      (session.world.pipeline id).filters ++ session.adds id operation := by
  rw [← membersOf_catalogue, ← membersOf_catalogue, catalogue_step]
  cases operation with
  | add pipeline names => exact membersOf_add sound pipeline names script id
  | newContext name encoder prober logger runner =>
      refine Eq.trans ?_ (List.append_nil _).symm
      exact membersOf_whenOk fun _ => membersOf_whenOk fun _ => membersOf_whenOk fun _ =>
        membersOf_whenOk fun _ => rfl
  | newRunner name logger limit =>
      refine Eq.trans ?_ (List.append_nil _).symm
      exact membersOf_whenOk fun _ => rfl
  | newFilter name request =>
      refine Eq.trans ?_ (List.append_nil _).symm
      exact membersOf_whenOk fun _ => rfl
  | assign filter property draft =>
      refine Eq.trans ?_ (List.append_nil _).symm
      exact membersOf_whenOk fun _ => membersOf_whenOk fun _ => membersOf_whenOk fun _ => rfl
  | newPipeline name context =>
      refine Eq.trans (membersOf_whenOk fun _ => ?_) (List.append_nil _).symm
      change (session.catalogue.members ++ [[]])[id]?.getD [] = _
      rw [getD_concat, Catalogue.membersOf]
      split
      · next last => rw [last, List.getElem?_eq_none (Nat.le_refl _), Option.getD_none]
      · rfl
  | _ => exact (List.append_nil _).symm

/-- By induction on the run: filters are added, and none is ever taken away. -/
theorem filters_run
    (sound : session.Sound)
    (operations : List (Operation × List Outcome))
    (id : PipelineId) :
    ((session.run operations).2.world.pipeline id).filters =
      (session.world.pipeline id).filters ++ session.addedOver id operations := by
  induction operations generalizing session with
  | nil => exact (List.append_nil _).symm
  | cons entry rest inductionHypothesis =>
      obtain ⟨operation, script⟩ := entry
      rw [run_cons, inductionHypothesis (sound.step operation script), filters_step sound,
        addedOver, List.append_assoc]

/-- A pipeline lists the names of its filters in order. -/
theorem step_list
    {name : String}
    (stands : session.pipelines.lookup name = some id)
    (script : List Outcome) :
    session.step (.list name) script =
      (⟨.ok (.filters (((session.world.pipeline id).filters.map session.world.filter).map
        Filter.name)), []⟩, session.ready script) := by
  have found : Reads (find Session.pipelines name) (session.ready script) (.ok id) :=
    reads_find_of_stands (fun _ => rfl) stands
  refine step_of_perform ?_ rfl
  exact found.perform_bind_ok rfl

/-- Over every run of operations, with any outcomes of calls: a pipeline holds the filters that were
added to it, in the order in which they were added and as often as they were, and that is what it
lists.  Uses of pipelines, whatever comes of them, leave the filters of all pipelines as they are.
What is compiled after any such use and any further operations comes to the same outcome, with
notes of the same levels and texts, as if that use had never been.  Only the logger that takes the
notes may be another one, since a use can bind the pipeline to a context. -/
theorem pipeline_filters_over_runs (operations : List (Operation × List Outcome)) :
    let session := reached operations
    (∀ id, (session.world.pipeline id).filters = ({} : Session).addedOver id operations) ∧
    (∀ name id script,
      session.pipelines.lookup name = some id ->
      session.step (.list name) script =
        (⟨.ok (.filters (((({} : Session).addedOver id operations).map session.world.filter).map
          Filter.name)), []⟩, session.ready script)) ∧
    (∀ operation script,
      operation.isUse ->
      ∀ id, ((session.step operation script).2.world.pipeline id).filters =
        (session.world.pipeline id).filters) ∧
    (∀ operation script between pipeline format tool strict laterScript,
      operation.isUse ->
      ∃ (report : Report Reply) (logger other : String),
        ((session.run between).2.step (.compile pipeline format tool strict) laterScript).1 =
          ⟨report.outcome, report.notes.map (.note logger)⟩ ∧
        (((session.step operation script).2.run between).2.step
            (.compile pipeline format tool strict) laterScript).1 =
          ⟨report.outcome, report.notes.map (.note other)⟩) := by
  intro session
  have sound : session.Sound := sound_reached operations
  have holds (id : PipelineId) :
      (session.world.pipeline id).filters = ({} : Session).addedOver id operations := by
    have absent : ({} : Session).world.pipeline id = {} := pipeline_of_le (Nat.zero_le id)
    have run := filters_run sound_empty operations id
    rwa [absent] at run
  refine ⟨holds, ?_, ?_, ?_⟩
  · intro name id script stands
    rw [← holds]
    exact step_list stands script
  · intro operation script isUse id
    have nothing : session.adds id operation = [] := by
      cases operation <;> first | rfl | cases isUse
    rw [filters_step sound, nothing, List.append_nil]
  · intro operation script between pipeline format tool strict laterScript isUse
    obtain ⟨logger, undisturbed⟩ :=
      step_compile (session.run between).2 pipeline format tool strict laterScript
    obtain ⟨other, disturbed⟩ := step_compile ((session.step operation script).2.run between).2
      pipeline format tool strict laterScript
    rw [catalogue_run_of_use isUse] at disturbed
    exact ⟨_, logger, other, undisturbed, disturbed⟩

/-- Two pipelines share filters, and one of them holds a filter twice. -/
def sharedFilters : List (Operation × List Outcome) :=
  [(.newFilter "a" (.fixed { name := .plain (.text "a") } {}), []),
    (.newFilter "b" (.fixed { name := .plain (.text "b") } {}), []),
    (.newPipeline "p" none, []), (.newPipeline "q" none, []),
    (.add "p" ["a", "b", "a"], []), (.add "q" ["b"], [])]

/-- A run of a pipeline without a context. -/
def firstRun : Operation :=
  .run "p" (.opened (.plain (.text "in.mp4"))) (.plain (.text "out.mp4")) none none

/-- The session that this reaches. -/
def afterSharedFilters : Session where
  world := {
    filters := [({ name := .text "a" } : Literal).toFilter {},
      ({ name := .text "b" } : Literal).toFilter {}]
    pipelines := [{ filters := [0, 1, 0] }, { filters := [1] }] }
  filters := [("b", 1), ("a", 0)]
  pipelines := [("q", 1), ("p", 0)]

theorem reached_sharedFilters : reached sharedFilters = afterSharedFilters := by
  let empty : Session := { afterSharedFilters with
    world := { afterSharedFilters.world with pipelines := [{}, {}] } }
  let filled : Session := { afterSharedFilters with
    world := { afterSharedFilters.world with pipelines := [{ filters := [0, 1, 0] }, {}] } }
  have first : reached (sharedFilters.take 4) = empty := rfl
  have second : (empty.step (.add "p" ["a", "b", "a"]) []).2 = filled := rfl
  have third : (filled.step (.add "q" ["b"]) []).2 = afterSharedFilters := rfl
  have fourth : reached (sharedFilters.take 5) = filled := by
    rw [← second, ← first, ← reached_concat]
    rfl
  rw [← third, ← fourth, ← reached_concat]
  rfl

/-- The run fails where the encoding tool is not found, and leaves the filters as they are; what is
compiled afterwards is what would have been compiled before. -/
theorem pipeline_filters_of_sharedFilters :
    let session := reached sharedFilters
    let failed := session.step firstRun [.missing "ffmpeg"]
    failed.1.outcome = .error (.tool (.notFound .encoder "ffmpeg")) ∧
    (session.world.pipeline 0).filters = [0, 1, 0] ∧
    session.step (.list "p") [] =
      (⟨.ok (.filters [.text "a", .text "b", .text "a"]), []⟩, session.ready []) ∧
    (∀ id, (failed.2.world.pipeline id).filters = (session.world.pipeline id).filters) ∧
    ∃ (report : Report Reply) (logger other : String),
      (session.step (.compile "p" none none none) []).1 =
        ⟨report.outcome, report.notes.map (.note logger)⟩ ∧
      (failed.2.step (.compile "p" none none none) []).1 =
        ⟨report.outcome, report.notes.map (.note other)⟩ := by
  obtain ⟨holds, lists, keeps, compiles⟩ := pipeline_filters_over_runs sharedFilters
  have added : ({} : Session).addedOver 0 sharedFilters = [0, 1, 0] := rfl
  have listed := lists "p" 0 []
  rw [added] at listed
  rw [reached_sharedFilters] at holds listed keeps compiles ⊢
  refine ⟨rfl, (holds 0).trans added, ?_, ?_, ?_⟩
  · exact listed rfl
  · exact keeps firstRun [.missing "ffmpeg"] rfl
  · exact compiles firstRun [.missing "ffmpeg"] [] "p" none none none [] rfl

end Session
end Filtergraph
