import Filtergraph.Proofs.Session.Soundness

/-!
# Catalogues

The catalogue of a session holds what pipelines are compiled from, and what the operations that
change it read: files, filters, the filters of each pipeline, and names.  Each operation changes the
catalogue in a way that is told by the catalogue and the script alone; contexts, and the bindings of
pipelines to them, have no part in it.
-/

namespace Filtergraph

open World

/-- What pipelines are compiled from, and what decides how that changes. -/
structure Catalogue where
  /-- The files. -/
  files : FileTree
  /-- The filters. -/
  filters : List Filter
  /-- The filters of each pipeline, in the order in which they were added. -/
  members : List (List FilterId)
  /-- The names that stand for contexts. -/
  contextNames : List String
  /-- The names of runners. -/
  runners : Names Runner
  /-- The names of filters. -/
  filterNames : Names FilterId
  /-- The names of pipelines. -/
  pipelineNames : Names PipelineId

/-- The catalogue of a session. -/
def Session.catalogue (session : Session) : Catalogue where
  files := session.world.files
  filters := session.world.filters
  members := session.world.pipelines.map Pipeline.filters
  contextNames := session.contexts.map Prod.fst
  runners := session.runners
  filterNames := session.filters
  pipelineNames := session.pipelines

/-- What names stand for, up to the first that stands for nothing. -/
def Names.lookupWhile (names : Names α) : List String -> List α
  | [] => []
  | name :: rest =>
    match names.lookup name with
    | some a => a :: names.lookupWhile rest
    | none => []

namespace Catalogue

/-- The filter of a number. -/
def filter (catalogue : Catalogue) (id : FilterId) : Filter :=
  catalogue.filters[id]?.getD default

/-- The filters of the pipeline of a number. -/
def membersOf (catalogue : Catalogue) (id : PipelineId) : List FilterId :=
  catalogue.members[id]?.getD []

/-- The catalogue after what may fail, in which case nothing changes. -/
def whenOk (catalogue : Catalogue) (outcome : Except Failure α) (change : α -> Catalogue) :
    Catalogue :=
  match outcome with
  | .ok a => change a
  | .error _ => catalogue

/-- Whether two calls tell that the tools of a context work. -/
def verified (script : List Outcome) : Except Failure Unit := do
  Context.verification .encoder (script.head?.getD .silent)
  Context.verification .prober (script.tail.head?.getD .silent)

/-- Whether what is asked for is the name of a context, or no context is asked for. -/
def contextKnown (catalogue : Catalogue) (request : Option String) : Except Failure Unit :=
  match request with
  | none => .ok ()
  | some name => if name ∈ catalogue.contextNames then .ok () else .error (.unknownName name)

/-- What an operation makes of a catalogue, with a script for its calls. -/
def step (catalogue : Catalogue) (operation : Operation) (script : List Outcome) : Catalogue :=
  match operation with
  | .newContext name encoder prober _ runner =>
    catalogue.whenOk (Draft.wordOption encoder Context.defaultEncoder) fun _ =>
    catalogue.whenOk (Draft.wordOption prober Context.defaultProber) fun _ =>
    catalogue.whenOk (SessionAction.lookedUpOption catalogue.runners runner) fun _ =>
    catalogue.whenOk (verified script) fun _ =>
      { catalogue with contextNames := name :: catalogue.contextNames.filter (· != name) }
  | .newRunner name logger limit =>
    catalogue.whenOk (Draft.wordOption limit .null) fun limit =>
      { catalogue with
        runners := catalogue.runners.bind name ⟨loggerOr defaultLogger logger, limit⟩ }
  | .newFilter name request =>
    catalogue.whenOk (request.resolve catalogue.files) fun filter =>
      { catalogue with
        filters := catalogue.filters ++ [filter]
        filterNames := catalogue.filterNames.bind name catalogue.filters.length }
  | .assign name property draft =>
    catalogue.whenOk (SessionAction.lookedUp (catalogue.filterNames.lookup name) name) fun id =>
    catalogue.whenOk draft.resolve fun value =>
    catalogue.whenOk ((catalogue.filter id).assign property value) fun filter =>
      { catalogue with filters := catalogue.filters.set id filter }
  | .writeFile path => { catalogue with files := (catalogue.files.addFile path).2 }
  | .removeFile path => { catalogue with files := (catalogue.files.removeFile path).2 }
  | .newPipeline name context =>
    catalogue.whenOk (catalogue.contextKnown context) fun _ =>
      { catalogue with
        members := catalogue.members ++ [[]]
        pipelineNames := catalogue.pipelineNames.bind name catalogue.members.length }
  | .add pipeline names =>
    catalogue.whenOk (SessionAction.lookedUp (catalogue.pipelineNames.lookup pipeline) pipeline)
      fun id =>
        { catalogue with
          members := catalogue.members.set id
            (catalogue.membersOf id ++ catalogue.filterNames.lookupWhile names) }
  | _ => catalogue

/-- What operations make of a catalogue one after another. -/
def run (catalogue : Catalogue) : List (Operation × List Outcome) -> Catalogue
  | [] => catalogue
  | (operation, script) :: rest => (catalogue.step operation script).run rest

/-- What comes of compiling a pipeline, and what is noted. -/
def compiled (catalogue : Catalogue) (pipeline : String) (format : Option FormatRequest)
    (tool strict : Option Draft) : Report Reply := do
  let id ← Report.ofExcept
    (SessionAction.lookedUp (catalogue.pipelineNames.lookup pipeline) pipeline)
  let format ← Report.ofExcept (FormatRequest.resolveOption format)
  let tool ← Report.ofExcept (Draft.resolveOption tool .null)
  let strict ← Report.ofExcept ((Draft.resolveOption strict (.bool false)).map Value.isTrue)
  let arguments ← Filter.compile catalogue.filter (catalogue.membersOf id) format tool strict
  return .contribution (some arguments)

end Catalogue

namespace Session

variable {session before after : Session}

/-- The filters of the catalogue are those of the world. -/
theorem filter_catalogue : session.catalogue.filter = session.world.filter := rfl

/-- A pipeline has the filters that the catalogue gives it; one that is not there has none. -/
theorem membersOf_catalogue (id : PipelineId) :
    session.catalogue.membersOf id = (session.world.pipeline id).filters := by
  rw [Catalogue.membersOf, catalogue, List.getElem?_map, World.pipeline]
  cases session.world.pipelines[id]? <;> rfl

/-- Changing a pipeline changes its own filters only. -/
theorem members_setPipeline (world : World) (id : PipelineId) (pipeline : Pipeline) :
    (world.setPipeline id pipeline).pipelines.map Pipeline.filters =
      (world.pipelines.map Pipeline.filters).set id pipeline.filters :=
  List.map_set

/-- Calls, notes and contexts have no part in a catalogue. -/
def Kind.sparesCatalogue : Kind -> Bool
  | .call | .note | .newContext | .release | .usual | .binding _ => true
  | _ => false

/-- Asking for a context has nothing to do with the catalogue. -/
theorem Kind.sparesCatalogue_ifAsks (id : PipelineId) (place : Option World) :
    ∀ kind ∈ ifAsks id place, kind.sparesCatalogue := by
  cases place <;> simp [ifAsks, sparesCatalogue]

/-- Changes that have nothing to do with the catalogue leave it as it is. -/
theorem Changes.catalogue_eq
    {kinds : List Kind}
    (changes : Changes kinds before after)
    (spares : ∀ kind ∈ kinds, kind.sparesCatalogue) :
    after.catalogue = before.catalogue := by
  refine changes.preserves (fun session => session.catalogue = before.catalogue) ?_ rfl
  intro kind member session next change same
  rw [← same]
  cases change with
  | binding _ id context _ _ =>
      have sameMembers : (session.world.bindPipeline id context).pipelines.map Pipeline.filters =
          session.world.pipelines.map Pipeline.filters := by
        rw [bindPipeline, members_setPipeline]
        change (session.catalogue.members.set id (session.world.pipeline id).filters) = _
        rw [← membersOf_catalogue, Catalogue.membersOf, set_getD]
        rfl
      rw [catalogue, sameMembers]
      rfl
  | call _ _ | note _ _ _ | newContext _ _ _ | release _ _ _ | usual _ _ _ => rfl
  | _ => cases spares _ member

end Session

namespace Catalogue

variable {catalogue : Catalogue}

theorem whenOk_map
    (outcome : Except Failure α)
    (f : α -> β)
    (change : β -> Catalogue) :
    catalogue.whenOk (outcome.map f) change = catalogue.whenOk outcome fun a => change (f a) := by
  cases outcome <;> rfl

end Catalogue

theorem Names.keys_bind (names : Names α) (name : String) (a : α) :
    (names.bind name a).map Prod.fst = name :: (names.map Prod.fst).filter (· != name) := by
  rw [Names.bind, List.map_cons, List.filter_map]
  rfl

namespace SessionAction

variable {action : SessionAction α}
variable {next : α -> SessionAction β}
variable {session : Session}

theorem perform_get_bind (next : Session -> SessionAction β) (session : Session) :
    (get >>= next).perform session = (next session).perform session := rfl

/-- What is looked up first decides whether the catalogue changes. -/
theorem Reads.catalogue_bind
    {outcome : Except Failure α}
    {change : α -> Catalogue}
    (reads : Reads action session outcome)
    (rest : ∀ a, outcome = .ok a -> ((next a).perform session).2.catalogue = change a) :
    ((action >>= next).perform session).2.catalogue = session.catalogue.whenOk outcome change := by
  rw [perform_bind, reads.perform_eq]
  cases outcome with
  | error failure => rfl
  | ok a => exact rest a rfl

/-- What only reads the session afterwards leaves the catalogue to the action before. -/
theorem catalogue_bind
    (reads : ∀ a after, ((next a).perform after).2 = after) :
    ((action >>= next).perform session).2.catalogue = (action.perform session).2.catalogue := by
  rw [perform_bind]
  rcases action.perform session with ⟨failure | a, after⟩
  · rfl
  · exact congrArg Session.catalogue (reads a after)

theorem catalogue_changeFiles
    (change : FileTree -> Except PathError Unit × FileTree)
    (session : Session) :
    ((changeFiles change).perform session).2.catalogue =
      { session.catalogue with files := (change session.world.files).2 } := rfl

/-- A context that cannot be made changes nothing; one that is made is told by the script alone. -/
theorem catalogue_create
    {next : ContextId -> SessionAction β}
    {change : Catalogue}
    (encoder prober : Word)
    (logger : String)
    (runner : Runner)
    (rest : ∀ id after, after.catalogue = session.catalogue ->
      ((next id).perform after).2.catalogue = change) :
    ((act (Context.create encoder prober logger runner) >>= next).perform session).2.catalogue =
      session.catalogue.whenOk (Catalogue.verified session.world.script) fun _ => change := by
  have sameVerified : Catalogue.verified session.world.script =
      (Context.verification .encoder session.world.nextOutcome >>= fun _ =>
        Context.verification .prober
          (session.world.afterCall (releaseCall encoder)).nextOutcome) := rfl
  rw [perform_bind, perform_act, Context.perform_create, sameVerified]
  dsimp only
  cases Context.verification .encoder session.world.nextOutcome with
  | error failure => rfl
  | ok _ =>
      dsimp only
      cases Context.verification .prober
        (session.world.afterCall (releaseCall encoder)).nextOutcome with
      | error failure => rfl
      | ok _ => exact rest _ _ rfl

/-- Whether a context is known depends on its name only. -/
theorem contextKnown_eq (session : Session) (request : Option String) :
    session.catalogue.contextKnown request =
      (lookedUpOption session.contexts request).map fun _ => () := by
  cases request with
  | none => rfl
  | some name =>
      rw [Catalogue.contextKnown, lookedUpOption]
      cases stands : session.contexts.lookup name with
      | none =>
          refine if_neg fun member => ?_
          obtain ⟨entry, among, rfl⟩ := List.mem_map.mp member
          simpa using List.lookup_eq_none_iff.mp stands entry among
      | some context =>
          refine if_pos ?_
          by_contra absent
          have none : session.contexts.lookup name = none := by
            refine List.lookup_eq_none_iff.mpr fun entry among => bne_iff_ne.mpr ?_
            rintro rfl
            exact absent (List.mem_map_of_mem among)
          cases none.symm.trans stands

/-- Adds filters to a pipeline, up to the first name that stands for none. -/
def addAll (id : PipelineId) (names : List String) : SessionAction PUnit :=
  forIn names PUnit.unit fun name _ => do
    let filter ← find Session.filters name
    act (Pipeline.add id filter)
    return .yield PUnit.unit

theorem perform_addOperation (pipeline : String) (names : List String) :
    Operation.perform (.add pipeline names) = do
      let id ← find Session.pipelines pipeline
      addAll id names
      return Reply.added (← filterNames id) := rfl

/-- Adding to a list behind what has been added to it. -/
theorem set_set_append (lists : List (List α)) (position : Nat) (first second : List α) :
    (lists.set position first).set position
        ((lists.set position first)[position]?.getD [] ++ second) =
      lists.set position (first ++ second) := by
  rcases Nat.lt_or_ge position lists.length with inside | outside
  · rw [List.getElem?_set_self inside, List.set_set, Option.getD_some]
  · rw [List.set_eq_of_length_le outside, List.set_eq_of_length_le outside,
      List.set_eq_of_length_le outside]

/-- Filters are added behind those that a pipeline has, up to the first unknown name. -/
theorem catalogue_addAll (id : PipelineId) (names : List String) (session : Session) :
    ((addAll id names).perform session).2.catalogue =
      { session.catalogue with
        members := session.catalogue.members.set id
          (session.catalogue.membersOf id ++ session.filters.lookupWhile names) } := by
  induction names generalizing session with
  | nil =>
      rw [Names.lookupWhile, List.append_nil, Catalogue.membersOf, set_getD]
      rfl
  | cons name rest inductionHypothesis =>
      rw [addAll, List.forIn_cons, bind_assoc, perform_bind,
        (reads_find (fun _ => rfl) name).perform_eq, Names.lookupWhile]
      cases session.filters.lookup name with
      | none =>
          rw [List.append_nil, Catalogue.membersOf, set_getD]
          rfl
      | some filter =>
          let added : Session := { session with
            world := session.world.setPipeline id { session.world.pipeline id with
              filters := (session.world.pipeline id).filters ++ [filter] } }
          have members : added.catalogue.members =
              session.catalogue.members.set id (session.catalogue.membersOf id ++ [filter]) := by
            rw [Session.membersOf_catalogue]
            exact Session.members_setPipeline _ _ _
          refine (inductionHypothesis added).trans ?_
          rw [Catalogue.membersOf, members, set_set_append, List.append_assoc]
          rfl

end SessionAction

/-- No use of a pipeline changes the catalogue. -/
theorem Use.sparesCatalogue_kinds (use : Use) (id : PipelineId) (world : World) :
    ∀ kind ∈ use.kinds id world, kind.sparesCatalogue := by
  have asking := Session.Kind.sparesCatalogue_ifAsks id (use.asksIn id world)
  cases use with
  | context => exact asking
  | compile format tool strict => simp [kinds, Session.Kind.sparesCatalogue]
  | build source output format tool strict => exact List.forall_mem_cons.mpr ⟨rfl, asking⟩
  | dryRun source output format => exact List.forall_mem_cons.mpr ⟨rfl, asking⟩
  | run source output format strict =>
      refine List.forall_mem_append.mpr ⟨?_, asking⟩
      simp [Session.Kind.sparesCatalogue]

namespace Operation

open SessionAction
open Session (Kind)

/-- An operation that may change the catalogue. -/
def changesCatalogue : Operation -> Bool
  | .newContext _ _ _ _ _ | .newRunner _ _ _ | .newFilter _ _ | .assign _ _ _ | .writeFile _
  | .removeFile _ | .newPipeline _ _ | .add _ _ => true
  | _ => false

/-- Nor does any operation but those that are for that. -/
theorem sparesCatalogue_kinds
    {operation : Operation}
    (spares : operation.changesCatalogue = false)
    (session : Session) :
    ∀ kind ∈ operation.kinds session, kind.sparesCatalogue := by
  cases operation with
  | showContext _ | compile _ _ _ _ | build _ _ _ _ _ _ | dryRun _ _ _ _ | run _ _ _ _ _ =>
      rw [kinds_of_isUse rfl]
      cases use? session _ with
      | none => simp
      | some used =>
          exact Use.sparesCatalogue_kinds used.2 used.1 session.world
  | newContext _ _ _ _ _ | newRunner _ _ _ | newFilter _ _ | assign _ _ _ | writeFile _
  | removeFile _ | newPipeline _ _ | add _ _ => cases spares
  | _ => simp [kinds, Kind.obtaining, Kind.sparesCatalogue]

/-- What an operation makes of the catalogue is told by the catalogue and the script. -/
theorem catalogue_perform (operation : Operation) (session : Session) :
    (operation.perform.perform session).2.catalogue =
      session.catalogue.step operation session.world.script := by
  cases operation with
  | newContext name encoder prober logger runner =>
      refine (reads_wordOr _ encoder session).catalogue_bind ?_
      intro encoder _
      refine (reads_wordOr _ prober session).catalogue_bind ?_
      intro prober _
      refine (reads_findOption (fun _ => rfl) runner).catalogue_bind ?_
      intro runner _
      refine catalogue_create _ _ _ _ ?_
      intro id after same
      have named : (after.contexts.bind name id).map Prod.fst =
          name :: session.catalogue.contextNames.filter (· != name) := by
        rw [Names.keys_bind, ← same]
        rfl
      rw [← named, ← same]
      rfl
  | newRunner name logger limit =>
      refine (reads_wordOr .null limit session).catalogue_bind ?_
      intro limit _
      rfl
  | newFilter name request =>
      rw [perform, perform_get_bind, Catalogue.step]
      exact (reads_ofExcept _ session).catalogue_bind fun _ _ => rfl
  | assign filter property draft =>
      refine (reads_find (fun _ => rfl) filter).catalogue_bind ?_
      intro id _
      refine (reads_value draft session).catalogue_bind ?_
      intro value _
      rw [perform_get_bind]
      exact (reads_ofExcept _ session).catalogue_bind fun _ _ => rfl
  | writeFile path =>
      refine (catalogue_bind fun _ _ => rfl).trans ?_
      exact catalogue_changeFiles _ session
  | removeFile path =>
      refine (catalogue_bind fun _ _ => rfl).trans ?_
      exact catalogue_changeFiles _ session
  | newPipeline name context =>
      have counted : session.catalogue.members.length = session.world.pipelines.length :=
        List.length_map _
      rw [Catalogue.step, contextKnown_eq, Catalogue.whenOk_map, counted]
      refine (reads_findOption (fun _ => rfl) context).catalogue_bind ?_
      intro context _
      have grown : (session.world.pipelines ++ [({ context } : Pipeline)]).map Pipeline.filters =
          session.catalogue.members ++ [[]] := List.map_append
      rw [← grown]
      rfl
  | add pipeline names =>
      rw [perform_addOperation]
      refine (reads_find (fun _ => rfl) pipeline).catalogue_bind ?_
      intro id _
      rw [catalogue_bind fun _ _ => rfl]
      exact catalogue_addAll id names session
  | _ => exact (within_perform _ session).catalogue_eq (sparesCatalogue_kinds rfl session)

end Operation
end Filtergraph
