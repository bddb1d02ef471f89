import Filtergraph.Proofs.Session.Changes

/-!
# What operations change

For each action on contexts and pipelines, and then for each operation, the kinds of changes that it
makes.  All that is said of what a run leaves alone comes from this.
-/

namespace Filtergraph

namespace Session.Kind

/-- What happens where the default context is obtained. -/
def obtaining : List Kind := [.call, .note, .newContext, .usual]

/-- What happens where a pipeline gets its context, if the default context is asked for. -/
def ifAsks (id : PipelineId) : Option World -> List Kind
  | some _ => [.call, .note, .newContext, .usual, .binding id]
  | none => []

theorem release_not_mem_ifAsks (id : PipelineId) (place : Option World) :
    .release ∉ ifAsks id place := by
  cases place <;> simp [ifAsks]

end Session.Kind

namespace Context

/-- A context that has been made is there. -/
theorem there_of_create
    {encoder prober : Word}
    {logger : String}
    {runner : Runner}
    {id : ContextId}
    {world made : World}
    (performed : (create encoder prober logger runner).perform world = (.ok id, made)) :
    id < made.contexts.length := by
  obtain ⟨madeToo, succeeds, makes, -⟩ | ⟨failure, tried, fails, -⟩ :=
    create_cases encoder prober logger runner world
  · obtain ⟨sameId, rfl⟩ := Prod.mk.inj (performed.symm.trans succeeds)
    rw [Except.ok.inj sameId, makes.contexts, List.length_append]
    exact Nat.lt_succ_self _
  · cases (Prod.mk.inj (performed.symm.trans fails)).1

end Context

namespace SessionAction

open World
open Session (Kind Change Changes)

variable {session : Session}

/-! ## Actions -/

/-- A call is recorded and takes an outcome from the script. -/
theorem within_call (call : Call) (session : Session) :
    Within [.call] (act (.call call)) session :=
  .of_change (.call session call)

theorem within_ofReport (logger : String) (report : Report α) (session : Session) :
    Within [.note] (act (.ofReport logger report)) session :=
  .of_change (.note session logger report.notes)

theorem within_tell (logger : String) (level : Level) (message : String) (session : Session) :
    Within [.note] (act (.tell logger level message)) session :=
  .of_change (.note session logger [⟨level, message⟩])

/-- Looking something up changes nothing. -/
theorem within_findFilter (name : String) (session : Session) :
    Within [] (findFilter name) session :=
  .after_lookup (reads_find (fun _ => rfl) name) fun _ _ => .pure _ _

theorem within_describe (context : ContextId) (session : Session) :
    Within [] (describe context) session :=
  .pure _ _

theorem within_filterNames (pipeline : PipelineId) (session : Session) :
    Within [] (filterNames pipeline) session :=
  .pure _ _

theorem within_argumentsOf (draft : Draft) (session : Session) :
    Within [] (argumentsOf draft) session :=
  .after_lookup (reads_value draft session) fun _ _ => .of_reads (reads_ofExcept _ session)

/-- A pipeline is made with a context that the session knows, or with none. -/
theorem within_createPipeline
    (context : Option ContextId)
    (session : Session)
    (known : ∀ id ∈ context, session.Knows id) :
    Within [.newPipeline] (act (Pipeline.create context)) session :=
  .of_change (.newPipeline session context known)

/-- The files change, also where the change fails half-way. -/
theorem within_changeFiles
    (change : FileTree -> Except PathError Unit × FileTree)
    (session : Session) :
    Within [.files] (changeFiles change) session := by
  refine .get_bind ?_
  refine (Within.act_modify (.files session (change session.world.files).2)).bind ?_
  intro _ after _
  exact .of_reads (reads_ofExcept _ after)

/-- Making a context calls the tools, notes that they work and makes it. -/
theorem within_create
    (encoder prober : Word)
    (logger : String)
    (runner : Runner)
    (session : Session) :
    Within [.call, .note, .newContext] (act (Context.create encoder prober logger runner))
      session := by
  have verifies (tool : Tool) (path : Word) (session : Session) :
      Within [.call, .note, .newContext] (act (Context.verifyTool tool path)) session := by
    rw [Within, perform_act, Context.perform_verifyTool]
    exact .mono (by simp) (.of_change (.call session (releaseCall path)))
  rw [Context.create, act_bind]
  refine (verifies .encoder encoder session).bind ?_
  intro _ first _
  rw [act_bind]
  refine (verifies .prober prober first).bind ?_
  intro _ second _
  rw [act_bind]
  refine ((within_tell _ _ _ second).mono (by simp)).bind ?_
  intro _ noted _
  exact .mono (by simp) (.of_change (.newContext noted { encoder, prober, logger, runner } rfl))

/-- Where there is no default context, one is made and becomes it. -/
theorem within_obtainDefault (session : Session) :
    Within Kind.obtaining (act Context.obtainDefault) session := by
  rw [Within, perform_act, Context.perform_obtainDefault]
  cases session.world.defaultContext with
  | some id => exact .refl _ _
  | none =>
      have created := within_create Context.defaultEncoder Context.defaultProber defaultLogger
        ⟨defaultLogger, .null⟩ session
      rw [Within, perform_act] at created
      dsimp only
      rcases performed : (Context.create Context.defaultEncoder Context.defaultProber defaultLogger
        ⟨defaultLogger, .null⟩).perform session.world with ⟨failure | id, made⟩
      · rw [performed] at created
        exact created.mono (by simp [Kind.obtaining])
      · rw [performed] at created
        have there := Context.there_of_create performed
        have sets := Change.usual { session with world := made } (some id)
          (fun context same => .inl (Option.mem_some.mp same ▸ there))
        exact (created.mono (by simp [Kind.obtaining])).trans
          (.mono (by simp [Kind.obtaining]) (.of_change sets))

/-- No pipeline is bound where only the default context is asked for. -/
theorem pipelines_obtainDefault (world : World) :
    (Context.obtainDefault.perform world).2.pipelines = world.pipelines :=
  Changes.pipelines_eq (within_obtainDefault { world }) (by simp [Kind.obtaining])
    (by simp [Kind.obtaining]) (by simp [Kind.obtaining])

/-- What is kept of an answer is the release that it tells. -/
theorem changes_keepRelease
    (context : ContextId)
    (session : Session)
    (heard : Except Failure (Option String)) :
    Changes [.release] session
      { session with world := Context.keepRelease context session.world heard } := by
  rcases heard with failure | _ | release
  · exact .refl _ _
  · exact .refl _ _
  · exact .of_change (.release session context release)

/-- Asking for a release calls a tool once, keeps what it tells and notes it. -/
theorem within_askRelease (context : ContextId) (session : Session) :
    Within [.call, .release, .note] (act (Context.askRelease context)) session := by
  rw [Within, perform_act, Context.perform_askRelease]
  dsimp only
  cases (session.world.context context).release with
  | some known => exact .refl _ _
  | none =>
      have calls := Changes.of_change (.call session
        (releaseCall (session.world.context context).encoder))
      have keeps := changes_keepRelease context
        { session with
          world := session.world.afterCall (releaseCall (session.world.context context).encoder) }
        (Context.heard session.world.nextOutcome)
      exact ((calls.mono (by simp)).trans (keeps.mono (by simp))).trans
        (.mono (by simp) (.of_change (.note _ _ _)))

/-- Running a command calls a tool once and leaves notes. -/
theorem within_runCommand (runner : Runner) (arguments : List Argument) (session : Session) :
    Within [.call, .note] (act (runner.run arguments)) session := by
  rw [Runner.run, act_bind]
  refine .after_lookup (reads_ofExcept _ session) ?_
  intro line _
  rw [act_bind]
  refine ((within_tell _ _ _ session).mono (by simp)).bind ?_
  intro _ noted _
  rw [act_bind]
  refine ((within_call _ noted).mono (by simp)).bind ?_
  intro outcome called _
  rw [Within, perform_act, Runner.perform_conclude]
  exact .mono (by simp) (.of_change (.note called _ _))

/-- A file that cannot be probed leaves a warning. -/
theorem within_probeInVain (logger message : String) (path : Word) (session : Session) :
    Within [.note] (act (Context.probeInVain logger message path)) session := by
  rw [Context.probeInVain, act_bind]
  refine (within_tell _ _ _ session).bind ?_
  intro _ noted _
  exact .of_reads (reads_ofExcept _ noted)

theorem within_readProbe
    (depthLimit : Nat)
    (logger : String)
    (path : Word)
    (output : Option String)
    (session : Session) :
    Within [.note] (act (Context.readProbe depthLimit logger path output)) session := by
  cases output with
  | none => exact .throw _ _
  | some output =>
      rw [Context.readProbe]
      split
      · exact .of_reads (reads_ofExcept _ session)
      · exact within_probeInVain _ _ _ _
      · exact .throw _ _
      · exact .throw _ _

/-- Probing is one call and what is noted of it. -/
theorem within_probe (context : ContextId) (path : Word) (session : Session) :
    Within [.call, .note] (act (Context.probe context path)) session := by
  rw [Context.probe, act_get]
  refine .get_bind ?_
  rw [act_bind]
  refine ((within_call _ session).mono (by simp)).bind ?_
  intro outcome called _
  cases outcome with
  | finished status output errors =>
      dsimp only
      split
      · exact (within_readProbe _ _ _ _ _).mono (by simp)
      · exact (within_probeInVain _ _ _ _).mono (by simp)
  | expired => exact (within_probeInVain _ _ _ _).mono (by simp)
  | missing reason => exact .throw _ _
  | refused refusal message => exact .throw _ _
  | malformed message => exact .throw _ _

/-! ## Uses of pipelines -/

section Pipelines

variable (source : Source)
variable (output : Argument)
variable (format : Option Format)
variable (tool : Value)
variable (strict : Bool)
variable (id : PipelineId)

/-- A pipeline gets its context and stays bound to it, if it was not bound before. -/
theorem within_obtainContext (session : Session) :
    Within (Kind.ifAsks id (Pipeline.asksIn id session.world)) (act (Pipeline.obtainContext id))
      session := by
  rw [Within, perform_act, Pipeline.perform_obtainContext, Pipeline.asksIn]
  cases unbound : (session.world.pipeline id).context with
  | some context => exact .refl _ _
  | none =>
      have obtains := within_obtainDefault session
      rw [Within, perform_act] at obtains
      dsimp only
      rcases performed : Context.obtainDefault.perform session.world with ⟨failure | context, made⟩
      · rw [performed] at obtains
        exact obtains.mono (by simp [Kind.obtaining, Kind.ifAsks])
      · rw [performed] at obtains
        have samePipelines : made.pipelines = session.world.pipelines :=
          congrArg (fun result => result.2.pipelines) performed |>.symm.trans
            (pipelines_obtainDefault session.world)
        have unboundToo : (made.pipeline id).context = none := by
          rw [World.pipeline, samePipelines]
          exact unbound
        have binds := Change.binding { session with world := made } id context unboundToo
          (Context.defaultContext_of_obtainDefault performed)
        exact (obtains.mono (by simp [Kind.obtaining, Kind.ifAsks])).trans
          (.mono (by simp [Kind.ifAsks]) (.of_change binds))

/-- Building leaves the notes of the check, and may bind the pipeline. -/
theorem within_build (session : Session) :
    Within (.note :: Kind.ifAsks id (Pipeline.buildAsksIn id tool strict session.world))
      (act (Pipeline.build id source output format tool strict)) session := by
  rw [Pipeline.build, act_get]
  refine .get_bind ?_
  rw [act_bind]
  refine ((within_ofReport _ _ session).mono (by simp)).bind ?_
  intro inOrder noted performed
  obtain ⟨passes, rfl⟩ := Prod.mk.inj performed
  change (Pipeline.orderReport id tool strict session.world).outcome = .ok inOrder at passes
  have obtains := within_obtainContext id
    { session with world := Pipeline.notedWorld id tool strict session.world }
  rw [Pipeline.buildAsksIn, passes, act_bind]
  refine (obtains.mono (List.subset_cons_self _ _)).bind ?_
  intro context after _
  rw [act_get]
  exact .get_bind (.of_reads (reads_ofExcept _ after))

theorem within_dryRun (session : Session) :
    Within (.note :: Kind.ifAsks id (Pipeline.buildAsksIn id .null false session.world))
      (act (Pipeline.dryRun id source output format)) session := by
  rw [Pipeline.dryRun, act_bind]
  refine (within_build source output format .null false id session).bind ?_
  intro arguments after _
  exact .of_reads (reads_ofExcept _ after)

/-- A command that is run leaves a call and notes, and its result decides about one of these. -/
theorem within_execute (context : ContextId) (arguments : List Argument) (session : Session) :
    Within [.call, .note] (act (Pipeline.execute context arguments)) session := by
  rw [Pipeline.execute, act_get]
  refine .get_bind ?_
  rw [act_bind]
  refine (within_runCommand _ _ session).bind ?_
  intro result after _
  cases result.succeeded with
  | false => exact .throw _ _
  | true => exact .mono (by simp) (.of_change (.note after _ [Pipeline.completedNote]))

/-- Once a pipeline has got its context, building a command for it leaves no more than notes. -/
theorem within_build_of_settled
    {context : ContextId}
    (settled : Pipeline.Settled session.world id context) :
    Within [.note] (act (Pipeline.build id source output format tool strict)) session := by
  obtain ⟨logger, notes, left⟩ := settled.build_leaves_notes source output format tool strict
  rw [Within, perform_act, left]
  exact .of_change (.note session logger notes)

/-- A run binds the pipeline, asks for the release, and then builds and runs the command. -/
theorem within_run (session : Session) :
    Within ([.call, .note, .release] ++ Kind.ifAsks id (Pipeline.asksIn id session.world))
      (act (Pipeline.run id source output format strict)) session := by
  rw [Pipeline.run_eq, act_bind]
  refine ((within_obtainContext id session).mono (List.subset_append_right _ _)).bind ?_
  intro context bound obtained
  have settled := Pipeline.settled_of_obtainContext (perform_of_act obtained)
  rw [act_bind]
  refine ((within_askRelease context bound).mono (by simp)).bind ?_
  intro release asked told
  have settledToo := settled.of_sameBindings (sameBindings_of_askRelease told)
  rw [act_bind]
  refine ((within_build_of_settled source output format _ strict id settledToo).mono (by simp)).bind
    ?_
  intro arguments built _
  exact (within_execute context arguments built).mono (by simp)

end Pipelines

end SessionAction

/-- The kinds of changes that a use of a pipeline makes. -/
def Use.kinds (id : PipelineId) (world : World) (use : Use) : List Session.Kind :=
  let asking := Session.Kind.ifAsks id (use.asksIn id world)
  match use with
  | .context => asking
  | .compile _ _ _ => [.note]
  | .build _ _ _ _ _ => .note :: asking
  | .dryRun _ _ _ => .note :: asking
  | .run _ _ _ _ => [.call, .note, .release] ++ asking

namespace SessionAction

/-- A use of a pipeline makes changes of its kinds only. -/
theorem within_use (id : PipelineId) (use : Use) (session : Session) :
    Within (use.kinds id session.world) (use.perform id) session := by
  cases use with
  | context =>
      refine (within_obtainContext id session).bind ?_
      intro context after _
      exact (within_describe context after).mono (by simp)
  | compile format tool strict =>
      exact (within_ofReport _ _ session).map _
  | build source output format tool strict =>
      exact (within_build source output format tool strict id session).map _
  | dryRun source output format =>
      exact (within_dryRun source output format id session).map _
  | run source output format strict =>
      exact (within_run source output format strict id session).map _

end SessionAction

namespace Operation

open SessionAction
open Session (Kind Change Changes)

/-- The kinds of changes that an operation makes. -/
def kinds (session : Session) : Operation -> List Kind
  | .newContext _ _ _ _ _ => [.call, .note, .newContext, .naming]
  | .newRunner _ _ _ => [.naming]
  | .setDefault _ => [.usual]
  | .showDefault => Kind.obtaining
  | .release _ => .release :: Kind.obtaining
  | .command _ _ => [.call, .note]
  | .probe _ _ => [.call, .note]
  | .probeVideo _ _ => Kind.obtaining
  | .newFilter _ _ => [.newFilter, .naming]
  | .assign filter name _ =>
    match session.filters.lookup filter with
    | some id => [.property id name]
    | none => []
  | .writeFile _ => [.files]
  | .removeFile _ => [.files]
  | .newPipeline _ _ => [.newPipeline, .naming]
  | .add pipeline _ =>
    match session.pipelines.lookup pipeline with
    | some id => [.added id]
    | none => []
  | .compileFilters _ _ _ _ _ => [.note]
  | .order _ _ _ => [.note]
  | .check _ _ _ => [.note]
  | .fragment _ _ => []
  | .apply _ _ _ => []
  | .list _ => []
  | operation =>
    match operation.use? session with
    | some (id, use) => use.kinds id session.world
    | none => []

/-- Adding filters changes the pipeline of the name. -/
theorem mem_kinds_add
    {session : Session}
    {pipeline : String}
    {names : List String}
    {kind : Kind} :
    kind ∈ kinds session (.add pipeline names) ↔
      ∃ id, session.pipelines.lookup pipeline = some id ∧ kind = .added id := by
  rw [kinds]
  cases session.pipelines.lookup pipeline <;> simp

/-- An assignment changes the filter of the name. -/
theorem mem_kinds_assign
    {session : Session}
    {filter property : String}
    {value : Draft}
    {kind : Kind} :
    kind ∈ kinds session (.assign filter property value) ↔
      ∃ id, session.filters.lookup filter = some id ∧ kind = .property id property := by
  rw [kinds]
  cases session.filters.lookup filter <;> simp

/-- What looking up a name comes to that is given. -/
theorem lookedUpOption_some
    {names : Names α}
    {name : String}
    {found : Option α}
    (looked : lookedUpOption names (some name) = .ok found) :
    ∃ a, found = some a ∧ names.lookup name = some a := by
  rw [lookedUpOption] at looked
  cases stands : names.lookup name with
  | none =>
      rw [stands] at looked
      cases looked
  | some a =>
      rw [stands] at looked
      exact ⟨a, (Except.ok.inj looked).symm, rfl⟩

/-- A session knows the contexts that it finds by name. -/
theorem knows_of_lookedUpOption
    {session : Session}
    {name : Option String}
    {found : Option ContextId}
    (looked : lookedUpOption session.contexts name = .ok found) :
    ∀ context ∈ found, session.Knows context := by
  rintro context rfl
  cases name with
  | none => cases looked
  | some name =>
      obtain ⟨other, same, stands⟩ := lookedUpOption_some looked
      exact .inr ⟨name, stands.trans same.symm⟩

/-- The kinds of a use are those of the use that the names stand for. -/
theorem kinds_of_isUse
    {operation : Operation}
    (isUse : operation.isUse)
    (session : Session) :
    operation.kinds session =
      match operation.use? session with
      | some (id, use) => use.kinds id session.world
      | none => [] := by
  cases operation <;> first | rfl | cases isUse

theorem kinds_of_use
    {operation : Operation}
    {session : Session}
    {id : PipelineId}
    {use : Use}
    (uses : operation.use? session = some (id, use)) :
    operation.kinds session = use.kinds id session.world := by
  rw [kinds_of_isUse (isUse_of_use uses), uses]

/-- So a use makes changes of its kinds only, also where a name is unknown. -/
theorem within_useOperation
    {operation : Operation}
    (isUse : operation.isUse)
    (session : Session) :
    Within (operation.kinds session) operation.perform session := by
  have resolves := resolves_perform isUse session
  rw [kinds_of_isUse isUse, Within]
  cases uses : operation.use? session with
  | none =>
      rw [uses] at resolves
      obtain ⟨failure, fails⟩ := resolves
      rw [fails]
      exact .refl _ _
  | some used =>
      rw [perform_of_use uses]
      exact within_use used.1 used.2 session

/-! ### Contexts and tools -/

/-- A context is named once it has been made. -/
theorem within_newContext
    (name : String)
    (encoder prober : Option Draft)
    (logger runner : Option String)
    (session : Session) :
    Within [.call, .note, .newContext, .naming]
      (perform (.newContext name encoder prober logger runner)) session := by
  refine .after_lookup (reads_wordOr _ encoder session) ?_
  intro encoder _
  refine .after_lookup (reads_wordOr _ prober session) ?_
  intro prober _
  refine .after_lookup (reads_findOption (fun _ => rfl) runner) ?_
  intro runner _
  refine ((within_create _ _ _ _ session).mono (by simp)).bind ?_
  intro context made performed
  have there := Context.there_of_create (perform_of_act performed)
  refine ((Within.modify (.contextName made name context there)).mono (by simp)).bind ?_
  intro _ named _
  exact .pure _ _

theorem within_newRunner
    (name : String)
    (logger : Option String)
    (limit : Option Draft)
    (session : Session) :
    Within [.naming] (perform (.newRunner name logger limit)) session := by
  refine .after_lookup (reads_wordOr .null limit session) ?_
  intro limit _
  exact (Within.modify (.runnerName session name ⟨loggerOr defaultLogger logger, limit⟩)).map _

/-- Only a context that the session knows becomes the default one. -/
theorem within_setDefault (context : Option String) (session : Session) :
    Within [.usual] (perform (.setDefault context)) session := by
  refine .after_lookup (reads_findOption (fun _ => rfl) context) ?_
  intro found looked
  exact (Within.act_modify (.usual session found (knows_of_lookedUpOption looked))).map _

theorem within_showDefault (session : Session) :
    Within Kind.obtaining (perform .showDefault) session := by
  refine (within_obtainDefault session).bind ?_
  intro context after _
  exact (within_describe context after).mono (by simp)

/-- Asking for the release of no context in particular asks for the default context. -/
theorem within_release (context : Option String) (session : Session) :
    Within (.release :: Kind.obtaining) (perform (.release context)) session := by
  cases context with
  | none =>
      refine ((within_obtainDefault session).mono (List.subset_cons_self _ _)).bind ?_
      intro context after _
      exact ((within_askRelease context after).mono (by simp [Kind.obtaining])).map _
  | some name =>
      refine .after_lookup (reads_findOption (fun _ => rfl) (some name)) ?_
      intro found looked
      obtain ⟨context, rfl, -⟩ := lookedUpOption_some looked
      exact ((within_askRelease context session).mono (by simp [Kind.obtaining])).map _

/-- A runner of the session and the runner of a context run a command alike. -/
theorem within_command (runner : RunnerName) (arguments : Draft) (session : Session) :
    Within [.call, .note] (perform (.command runner arguments)) session := by
  cases runner with
  | runner name =>
      refine .after_lookup (reads_find (fun _ => rfl) name) ?_
      intro runner _
      refine ((within_argumentsOf arguments session).mono (by simp)).bind ?_
      intro arguments after _
      exact (within_runCommand runner arguments after).map _
  | ofContext name =>
      refine .after_lookup (reads_find (fun _ => rfl) name) ?_
      intro context _
      refine ((within_argumentsOf arguments session).mono (by simp)).bind ?_
      intro arguments after _
      refine .get_bind ?_
      exact (within_runCommand _ arguments after).map _

theorem within_probeBy (context : String) (path : Draft) (session : Session) :
    Within [.call, .note] (perform (.probe context path)) session := by
  refine .after_lookup (reads_word path session) ?_
  intro path _
  refine .after_lookup (reads_find (fun _ => rfl) context) ?_
  intro context _
  exact (within_probe context path session).map _

/-- Probing by no context in particular asks for the default context. -/
theorem within_probeVideo (path : Draft) (context : Option String) (session : Session) :
    Within Kind.obtaining (perform (.probeVideo path context)) session := by
  refine .after_lookup (reads_word path session) ?_
  intro path _
  cases context with
  | none =>
      refine (within_obtainDefault session).bind ?_
      intro context after _
      exact ((within_probe context _ after).mono (by simp [Kind.obtaining])).map _
  | some name =>
      refine .after_lookup (reads_findOption (fun _ => rfl) (some name)) ?_
      intro found looked
      obtain ⟨context, rfl, -⟩ := lookedUpOption_some looked
      exact ((within_probe context _ session).mono (by simp [Kind.obtaining])).map _

/-! ### Filters -/

/-- A filter is made and then named. -/
theorem within_newFilter (name : String) (request : FilterRequest) (session : Session) :
    Within [.newFilter, .naming] (perform (.newFilter name request)) session := by
  refine .get_bind ?_
  refine .after_lookup (reads_ofExcept _ session) ?_
  intro filter _
  refine ((Within.act_modify (.newFilter session filter)).mono (by simp)).bind ?_
  intro _ added performed
  obtain ⟨-, rfl⟩ := Prod.mk.inj performed
  refine ((Within.modify (.filterName _ name session.world.filters.length ?_)).mono
    (by simp)).map _
  simp

theorem within_fragment
    (filter : String)
    (request : Option FormatRequest)
    (session : Session) :
    Within [] (perform (.fragment filter request)) session := by
  refine (within_findFilter filter session).bind ?_
  intro filter after _
  refine .after_lookup (reads_format request after) ?_
  intro format _
  exact (Within.of_reads (reads_ofExcept _ after)).map _

/-- Applying a filter changes nothing, for one input as for several. -/
theorem within_apply
    (filter : String)
    (source : SourceRequest)
    (request : Option FormatRequest)
    (session : Session) :
    Within [] (perform (.apply filter source request)) session := by
  refine (within_findFilter filter session).bind ?_
  intro filter after _
  refine .after_lookup (reads_ofExcept _ after) ?_
  intro subject _
  cases subject with
  | single input =>
      refine .after_lookup (reads_format request after) ?_
      intro format _
      exact (Within.of_reads (reads_ofExcept _ after)).map _
  | several inputs =>
      exact (Within.of_reads (reads_ofExcept _ after)).map _

/-- An assignment that is not refused changes the property it names. -/
theorem within_assign (filter property : String) (draft : Draft) (session : Session) :
    Within (kinds session (.assign filter property draft)) (perform (.assign filter property draft))
      session := by
  refine .after_lookup (reads_find (fun _ => rfl) filter) ?_
  intro id looked
  refine .after_lookup (reads_value draft session) ?_
  intro value _
  refine .get_bind ?_
  refine .after_lookup (reads_ofExcept _ session) ?_
  intro changed assigned
  rw [kinds, lookedUp_eq_ok_iff.mp looked]
  exact (Within.act_modify (.property session id property value changed assigned)).map _

/-- What checks releases looks up the release and whether the check is strict. -/
theorem within_checking
    {kinds : List Kind}
    {check : Value -> Bool -> SessionAction α}
    (tool strict : Option Draft)
    (session : Session)
    (checks : ∀ tool strict, Within kinds (check tool strict) session) :
    Within kinds
      (do
        let tool ← valueOr .null tool
        let strict ← flag strict
        check tool strict)
      session := by
  refine .after_lookup (reads_valueOr .null tool session) ?_
  intro tool _
  refine .after_lookup (reads_flag strict session) ?_
  intro strict _
  exact checks tool strict

/-! ### Pipelines -/

/-- A pipeline is made and then named. -/
theorem within_newPipeline (name : String) (context : Option String) (session : Session) :
    Within [.newPipeline, .naming] (perform (.newPipeline name context)) session := by
  refine .after_lookup (reads_findOption (fun _ => rfl) context) ?_
  intro context looked
  refine ((within_createPipeline context session (knows_of_lookedUpOption looked)).mono
    (by simp)).bind ?_
  intro pipeline made performed
  obtain ⟨sameId, rfl⟩ := Prod.mk.inj performed
  obtain rfl := Except.ok.inj sameId
  refine ((Within.modify (.pipelineName _ name session.world.pipelines.length ?_)).mono
    (by simp)).bind ?_
  · simp
  · intro _ named _
    exact ((within_filterNames session.world.pipelines.length named).mono (by simp)).map _

/-- Filters are added one by one, and those in front of an unknown name stay. -/
theorem within_add (pipeline : String) (filters : List String) (session : Session) :
    Within (kinds session (.add pipeline filters)) (perform (.add pipeline filters)) session := by
  refine .after_lookup (reads_find (fun _ => rfl) pipeline) ?_
  intro id looked
  rw [kinds, lookedUp_eq_ok_iff.mp looked]
  refine (Within.forIn ?_ filters _ session).bind ?_
  · intro name _ between
    refine .after_lookup (reads_find (fun _ => rfl) name) ?_
    intro filter _
    exact (Within.act_modify (.added between id filter)).map _
  · intro _ added _
    exact ((within_filterNames id added).mono (by simp)).map _

theorem within_list (pipeline : String) (session : Session) :
    Within [] (perform (.list pipeline)) session := by
  refine .after_lookup (reads_find (fun _ => rfl) pipeline) ?_
  intro pipeline _
  exact .pure _ _

/-! ### Filters that no pipeline holds -/

/-- Compiling filters leaves the notes of the check. -/
theorem within_compileFilters
    (filters : List String)
    (request : Option FormatRequest)
    (tool strict : Option Draft)
    (logger : Option String)
    (session : Session) :
    Within [.note] (perform (.compileFilters filters request tool strict logger)) session := by
  refine (Within.mapM ?_ filters session).bind ?_
  · intro name between
    exact .of_reads (reads_find (fun _ => rfl) name)
  · intro filters found _
    refine .after_lookup (reads_format request found) ?_
    intro format _
    refine within_checking tool strict found ?_
    intro tool strict
    refine .get_bind ?_
    exact (within_ofReport _ _ found).map _

theorem within_order (filters : List String) (tool strict : Option Draft) (session : Session) :
    Within [.note] (perform (.order filters tool strict)) session := by
  refine (Within.mapM ?_ filters session).bind ?_
  · intro name between
    exact (Within.of_reads (reads_find (fun _ => rfl) name)).map _
  · intro entries found _
    refine within_checking tool strict found ?_
    intro tool strict
    refine .get_bind ?_
    exact (within_ofReport _ _ found).map _

theorem within_check (filters : List String) (tool strict : Option Draft) (session : Session) :
    Within [.note] (perform (.check filters tool strict)) session := by
  refine (Within.mapM ?_ filters session).bind ?_
  · intro name between
    exact (within_findFilter name between).mono (by simp)
  · intro filters found _
    refine within_checking tool strict found ?_
    intro tool strict
    exact (within_ofReport _ _ found).map _

/-! ### All operations -/

/-- An operation makes changes of its kinds only. -/
theorem within_perform (operation : Operation) (session : Session) :
    Within (operation.kinds session) operation.perform session := by
  cases operation with
  | newContext => exact within_newContext ..
  | newRunner => exact within_newRunner ..
  | setDefault => exact within_setDefault ..
  | showDefault => exact within_showDefault session
  | release => exact within_release ..
  | command => exact within_command ..
  | probe => exact within_probeBy ..
  | probeVideo => exact within_probeVideo ..
  | newFilter => exact within_newFilter ..
  | fragment => exact within_fragment ..
  | apply => exact within_apply ..
  | assign => exact within_assign ..
  | writeFile => exact (within_changeFiles _ session).map _
  | removeFile => exact (within_changeFiles _ session).map _
  | newPipeline => exact within_newPipeline ..
  | add => exact within_add ..
  | list => exact within_list ..
  | compileFilters => exact within_compileFilters ..
  | order => exact within_order ..
  | check => exact within_check ..
  | showContext | compile | build | dryRun | run => exact within_useOperation rfl session

end Operation
end Filtergraph
