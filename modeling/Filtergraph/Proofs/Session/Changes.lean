import Filtergraph.Proofs.Session.Uses
import Mathlib.Logic.Relation

/-!
# Changes of sessions

Whatever an action does to a session is a sequence of small changes, each of some kind.  What an
action leaves alone is told by the kinds of its changes.
-/

namespace Filtergraph

/-- A property that is fixed cannot be given a new value. -/
theorem Filter.assign_of_fixed
    {filter : Filter}
    {name : String}
    (fixed : name ∈ filter.fixed)
    (value : Value) :
    filter.assign name value = .error (.wrongAttribute (.readOnly name filter.typeName)) := by
  have contains : filter.fixed.contains name = true := List.contains_iff_mem.mpr fixed
  rw [Filter.assign, contains]
  rfl

namespace World

/-- What has been added last is found behind all others. -/
theorem getD_concat (items : List α) (item absent : α) (position : Nat) :
    (items ++ [item])[position]?.getD absent =
      if position = items.length then item else items[position]?.getD absent := by
  rcases Nat.lt_trichotomy position items.length with inside | rfl | outside
  · rw [List.getElem?_append_left inside, if_neg (Nat.ne_of_lt inside)]
  · rw [List.getElem?_concat_length, if_pos rfl, Option.getD_some]
  · rw [if_neg (Nat.ne_of_gt outside), List.getElem?_eq_none (Nat.le_of_lt outside),
      List.getElem?_eq_none (by simpa using Nat.succ_le_of_lt outside)]

theorem pipeline_concat (world : World) (pipeline : Pipeline) (id : PipelineId) :
    ({ world with pipelines := world.pipelines ++ [pipeline] } : World).pipeline id =
      if id = world.pipelines.length then pipeline else world.pipeline id :=
  getD_concat _ _ _ _

/-- A pipeline that is not there counts as one without filters. -/
theorem pipeline_of_le
    {world : World}
    {id : PipelineId}
    (outside : world.pipelines.length ≤ id) :
    world.pipeline id = {} := by
  rw [World.pipeline, List.getElem?_eq_none outside]
  rfl

/-- Only a pipeline that is there is bound. -/
theorem lt_of_bound
    {world : World}
    {id : PipelineId}
    {context : ContextId}
    (known : (world.pipeline id).context = some context) :
    id < world.pipelines.length := by
  by_contra outside
  rw [pipeline_of_le (Nat.le_of_not_lt outside)] at known
  cases known

end World

namespace Session

open World

/-- The kinds of changes. -/
inductive Kind where
  | call
  | note
  | newContext
  | release
  | usual
  | binding (pipeline : PipelineId)
  | files
  | newFilter
  | property (filter : FilterId) (name : String)
  | newPipeline
  | added (pipeline : PipelineId)
  | naming
  deriving DecidableEq

/-- Contexts that are there or have a name are known. -/
def Knows (session : Session) (context : ContextId) : Prop :=
  context < session.world.contexts.length ∨ ∃ name, session.contexts.lookup name = some context

/-- A small change of a session. -/
inductive Change : Kind -> Session -> Session -> Prop
  /-- A tool is called. -/
  | call (session : Session) (made : Call) :
    Change .call session { session with world := session.world.afterCall made }
  /-- Notes are taken. -/
  | note (session : Session) (logger : String) (notes : List Note) :
    Change .note session { session with world := session.world.afterNotes logger notes }
  /-- A context comes into existence, whose release is not known. -/
  | newContext (session : Session) (context : Context) (fresh : context.release = none) :
    Change .newContext session { session with world := session.world.addContext context }
  /-- The release of a context becomes known. -/
  | release (session : Session) (id : ContextId) (release : String) :
    Change .release session
      { session with
        world := session.world.setContext id
          { session.world.context id with release := some release } }
  /-- A known context becomes the default one, or there is none from then on. -/
  | usual (session : Session) (usual : Option ContextId)
      (known : ∀ context ∈ usual, session.Knows context) :
    Change .usual session (session.withDefault usual)
  /-- A pipeline without a context is bound to the default one. -/
  | binding (session : Session) (id : PipelineId) (context : ContextId)
      (unbound : (session.world.pipeline id).context = none)
      (usual : session.world.defaultContext = some context) :
    Change (.binding id) session { session with world := session.world.bindPipeline id context }
  /-- The files change. -/
  | files (session : Session) (files : FileTree) :
    Change .files session { session with world := { session.world with files } }
  /-- A filter comes into existence. -/
  | newFilter (session : Session) (filter : Filter) :
    Change .newFilter session
      { session with world := { session.world with filters := session.world.filters ++ [filter] } }
  /-- A property of a filter gets a new value. -/
  | property (session : Session) (id : FilterId) (name : String) (value : Value) (filter : Filter)
      (assigned : (session.world.filter id).assign name value = .ok filter) :
    Change (.property id name) session
      { session with
        world := { session.world with filters := session.world.filters.set id filter } }
  /-- A pipeline without filters comes into existence, with a known context or without one. -/
  | newPipeline (session : Session) (context : Option ContextId)
      (known : ∀ id ∈ context, session.Knows id) :
    Change .newPipeline session
      { session with
        world := { session.world with pipelines := session.world.pipelines ++ [{ context }] } }
  /-- A filter is added to a pipeline. -/
  | added (session : Session) (id : PipelineId) (filter : FilterId) :
    Change (.added id) session
      { session with
        world := session.world.setPipeline id
          { session.world.pipeline id with
            filters := (session.world.pipeline id).filters ++ [filter] } }
  /-- A context gets a name. -/
  | contextName (session : Session) (name : String) (id : ContextId)
      (there : id < session.world.contexts.length) :
    Change .naming session { session with contexts := session.contexts.bind name id }
  /-- A runner gets a name. -/
  | runnerName (session : Session) (name : String) (runner : Runner) :
    Change .naming session { session with runners := session.runners.bind name runner }
  /-- A filter gets a name. -/
  | filterName (session : Session) (name : String) (id : FilterId)
      (there : id < session.world.filters.length) :
    Change .naming session { session with filters := session.filters.bind name id }
  /-- A pipeline gets a name. -/
  | pipelineName (session : Session) (name : String) (id : PipelineId)
      (there : id < session.world.pipelines.length) :
    Change .naming session { session with pipelines := session.pipelines.bind name id }

/-- One session comes from another one by changes of some kinds. -/
def Changes (kinds : List Kind) : Session -> Session -> Prop :=
  Relation.ReflTransGen fun before after => ∃ kind ∈ kinds, Change kind before after

namespace Changes

variable {kinds more : List Kind}
variable {kind : Kind}
variable {before between after : Session}

protected theorem refl (kinds : List Kind) (session : Session) : Changes kinds session session :=
  Relation.ReflTransGen.refl

protected theorem trans
    (one : Changes kinds before between)
    (two : Changes kinds between after) :
    Changes kinds before after :=
  Relation.ReflTransGen.trans one two

theorem of_change (change : Change kind before after) : Changes [kind] before after :=
  .single ⟨kind, List.mem_singleton_self kind, change⟩

/-- Fewer kinds of changes are among more. -/
theorem mono (subset : kinds ⊆ more) (changes : Changes kinds before after) :
    Changes more before after := by
  refine Relation.ReflTransGen.mono ?_ _ _ changes
  rintro before after ⟨kind, member, change⟩
  exact ⟨kind, subset member, change⟩

/-- What each change preserves is preserved by all of them. -/
theorem preserves
    (property : Session -> Prop)
    (changes : Changes kinds before after)
    (each : ∀ kind ∈ kinds, ∀ session next,
      Change kind session next -> property session -> property next)
    (holds : property before) :
    property after := by
  induction changes with
  | refl => exact holds
  | tail _ last inductionHypothesis =>
      obtain ⟨kind, member, change⟩ := last
      exact each kind member _ _ change inductionHypothesis

/-! ## What changes leave alone -/

/-- Where no call is among the kinds, the script stays as it is. -/
theorem called_nil
    (changes : Changes kinds before after)
    (uncalled : .call ∉ kinds) :
    Called before.world after.world [] := by
  refine changes.preserves (fun session => Called before.world session.world []) ?_ (.refl _)
  intro kind member session next change called
  cases change with
  | call _ _ => exact absurd member uncalled
  | note _ logger notes => exact called.trans (called_afterNotes session.world logger notes)
  | _ => exact called.unchanged rfl rfl

/-- Contexts change only where one is made or told its release. -/
theorem contexts_eq
    (changes : Changes kinds before after)
    (unmade : .newContext ∉ kinds)
    (unheard : .release ∉ kinds) :
    after.world.contexts = before.world.contexts := by
  refine changes.preserves (fun session => session.world.contexts = before.world.contexts) ?_ rfl
  intro kind member session next change same
  cases change with
  | newContext _ _ _ => exact absurd member unmade
  | release _ _ _ => exact absurd member unheard
  | _ => exact same

/-- A context that is there stays, and stays what it is but for its release. -/
theorem original_eq
    {id : ContextId}
    (changes : Changes kinds before after)
    (there : id < before.world.contexts.length) :
    id < after.world.contexts.length ∧
      (after.world.context id).original = (before.world.context id).original := by
  refine changes.preserves (fun session => id < session.world.contexts.length ∧
    (session.world.context id).original = (before.world.context id).original) ?_ ⟨there, rfl⟩
  rintro kind member session next change ⟨there, same⟩
  cases change with
  | newContext _ context _ =>
      refine ⟨by simpa [addContext] using Nat.lt_succ_of_lt there, ?_⟩
      rw [← same, World.context, addContext, getD_concat, if_neg (Nat.ne_of_lt there)]
      rfl
  | release _ other release =>
      have continues := continues_keepRelease other session.world (.ok (some release))
      exact ⟨by simpa [setContext] using there, (continues.original_eq id).trans same⟩
  | _ => exact ⟨there, same⟩

/-- The default context changes only where it is set. -/
theorem defaultContext_eq
    (changes : Changes kinds before after)
    (unset : .usual ∉ kinds) :
    after.world.defaultContext = before.world.defaultContext := by
  refine changes.preserves
    (fun session => session.world.defaultContext = before.world.defaultContext) ?_ rfl
  intro kind member session next change same
  cases change with
  | usual _ _ _ => exact absurd member unset
  | _ => exact same

/-- Pipelines change only where one is made, bound or added to. -/
theorem pipelines_eq
    (changes : Changes kinds before after)
    (unbound : ∀ id, .binding id ∉ kinds)
    (unadded : ∀ id, .added id ∉ kinds)
    (unmade : .newPipeline ∉ kinds) :
    after.world.pipelines = before.world.pipelines := by
  refine changes.preserves (fun session => session.world.pipelines = before.world.pipelines) ?_ rfl
  intro kind member session next change same
  cases change with
  | binding _ other _ _ _ => exact absurd member (unbound other)
  | added _ other _ => exact absurd member (unadded other)
  | newPipeline _ _ _ => exact absurd member unmade
  | _ => exact same

/-- A pipeline that is there stays. -/
theorem pipeline_there
    {id : PipelineId}
    (changes : Changes kinds before after)
    (there : id < before.world.pipelines.length) :
    id < after.world.pipelines.length := by
  refine changes.preserves (fun session => id < session.world.pipelines.length) ?_ there
  intro kind member session next change there
  cases change with
  | binding _ _ _ _ _ => simpa [bindPipeline, setPipeline] using there
  | added _ _ _ => simpa [setPipeline] using there
  | newPipeline _ _ _ => simpa using Nat.lt_succ_of_lt there
  | _ => exact there

theorem pipelines_length_eq
    (changes : Changes kinds before after)
    (unmade : .newPipeline ∉ kinds) :
    after.world.pipelines.length = before.world.pipelines.length := by
  refine changes.preserves
    (fun session => session.world.pipelines.length = before.world.pipelines.length) ?_ rfl
  intro kind member session next change same
  cases change with
  | binding _ _ _ _ _ => simpa [bindPipeline, setPipeline] using same
  | added _ _ _ => simpa [setPipeline] using same
  | newPipeline _ _ _ => exact absurd member unmade
  | _ => exact same

/-- A pipeline that is there stays, and keeps its context or the lack of one unless it is bound. -/
theorem binding_eq
    {id : PipelineId}
    (changes : Changes kinds before after)
    (unbound : .binding id ∉ kinds)
    (there : id < before.world.pipelines.length) :
    id < after.world.pipelines.length ∧
      (after.world.pipeline id).context = (before.world.pipeline id).context := by
  refine changes.preserves (fun session => id < session.world.pipelines.length ∧
    (session.world.pipeline id).context = (before.world.pipeline id).context) ?_ ⟨there, rfl⟩
  rintro kind member session next change ⟨there, same⟩
  cases change with
  | binding _ other context _ _ =>
      have different : id ≠ other := by
        rintro rfl
        exact unbound member
      refine ⟨by simpa [bindPipeline, setPipeline] using there, ?_⟩
      rw [bindPipeline, pipeline_setPipeline, if_neg (by simp [different])]
      exact same
  | added _ other filter =>
      refine ⟨by simpa [setPipeline] using there, ?_⟩
      rw [pipeline_setPipeline]
      split
      · next self => rwa [← self.1]
      · exact same
  | newPipeline _ context known =>
      refine ⟨by simpa using Nat.lt_succ_of_lt there, ?_⟩
      rw [pipeline_concat, if_neg (Nat.ne_of_lt there)]
      exact same
  | _ => exact ⟨there, same⟩

/-- A pipeline that is bound stays bound to the same context. -/
theorem bound
    {id : PipelineId}
    {context : ContextId}
    (changes : Changes kinds before after)
    (known : (before.world.pipeline id).context = some context) :
    (after.world.pipeline id).context = some context := by
  refine changes.preserves (fun session => (session.world.pipeline id).context = some context) ?_
    known
  intro kind member session next change known
  cases change with
  | binding _ other _ unbound _ =>
      have different : id ≠ other := by
        rintro rfl
        cases unbound.symm.trans known
      rw [bindPipeline, pipeline_setPipeline, if_neg (by simp [different])]
      exact known
  | added _ other filter =>
      rw [pipeline_setPipeline]
      split
      · next self => rwa [← self.1]
      · exact known
  | newPipeline _ other known' =>
      have there : id < session.world.pipelines.length := lt_of_bound known
      rw [pipeline_concat, if_neg (Nat.ne_of_lt there)]
      exact known
  | _ => exact known

/-- A filter that is there stays as it is, unless one of its properties is changed that can be. -/
theorem filter_eq
    {id : FilterId}
    (changes : Changes kinds before after)
    (there : id < before.world.filters.length)
    (fixed : ∀ name, .property id name ∈ kinds -> name ∈ (before.world.filter id).fixed) :
    id < after.world.filters.length ∧ after.world.filter id = before.world.filter id := by
  refine changes.preserves (fun session => id < session.world.filters.length ∧
    session.world.filter id = before.world.filter id) ?_ ⟨there, rfl⟩
  rintro kind member session next change ⟨there, same⟩
  cases change with
  | newFilter _ filter =>
      refine ⟨by simpa using Nat.lt_succ_of_lt there, ?_⟩
      rw [World.filter, getD_concat, if_neg (Nat.ne_of_lt there)]
      exact same
  | property _ other name value filter assigned =>
      have different : other ≠ id := by
        rintro rfl
        rw [same, Filter.assign_of_fixed (fixed name member)] at assigned
        cases assigned
      refine ⟨by simpa using there, ?_⟩
      rw [World.filter, List.getElem?_set_ne different]
      exact same
  | _ => exact ⟨there, same⟩

/-- Where no release becomes known, contexts are only added, and no release of theirs is known. -/
theorem contexts_extended
    (changes : Changes kinds before after)
    (unheard : .release ∉ kinds) :
    ∃ fresh, after.world.contexts = before.world.contexts ++ fresh ∧
      ∀ context ∈ fresh, context.release = none := by
  refine changes.preserves (fun session => ∃ fresh,
    session.world.contexts = before.world.contexts ++ fresh ∧
      ∀ context ∈ fresh, context.release = none) ?_ ⟨[], by simp, by simp⟩
  rintro kind member session next change ⟨fresh, extended, unknown⟩
  cases change with
  | newContext _ context new =>
      refine ⟨fresh ++ [context], ?_, ?_⟩
      · rw [addContext, extended, List.append_assoc]
      · intro other among
        rcases List.mem_append.mp among with earlier | last
        · exact unknown other earlier
        · rwa [List.mem_singleton.mp last]
  | release _ _ _ => exact absurd member unheard
  | _ => exact ⟨fresh, extended, unknown⟩

end Changes
end Session

namespace SessionAction

open Session (Kind Change Changes)

variable {action : SessionAction α}
variable {next : α -> SessionAction β}
variable {session : Session}
variable {kinds more : List Kind}

/-- In a session, an action makes changes of some kinds only. -/
def Within (kinds : List Kind) (action : SessionAction α) (session : Session) : Prop :=
  Changes kinds session (action.perform session).2

namespace Within

theorem mono (subset : kinds ⊆ more) (within : Within kinds action session) :
    Within more action session :=
  Changes.mono subset within

protected theorem pure (a : α) (session : Session) :
    Within kinds (pure a : SessionAction α) session :=
  .refl _ _

protected theorem throw (failure : Failure) (session : Session) :
    Within kinds (throw failure : SessionAction α) session :=
  .refl _ _

protected theorem bind
    (first : Within kinds action session)
    (rest : ∀ a after, action.perform session = (.ok a, after) -> Within kinds (next a) after) :
    Within kinds (action >>= next) session := by
  rw [Within] at first ⊢
  rw [perform_bind]
  rcases performed : action.perform session with ⟨failure | a, after⟩
  · rwa [performed] at first
  · rw [performed] at first
    exact first.trans (rest a after performed)

protected theorem map
    (first : Within kinds action session)
    (f : α -> β) :
    Within kinds (action >>= fun a => pure (f a)) session :=
  first.bind fun _ _ _ => .pure _ _

protected theorem get_bind
    {next : Session -> SessionAction α}
    (within : Within kinds (next session) session) :
    Within kinds (get >>= next) session :=
  within

/-- What is looked up first changes nothing. -/
theorem after_lookup
    {outcome : Except Failure α}
    (reads : Reads action session outcome)
    (rest : ∀ a, outcome = .ok a -> Within kinds (next a) session) :
    Within kinds (action >>= next) session := by
  rw [Within, perform_bind, reads.perform_eq]
  cases outcome with
  | error failure => exact .refl _ _
  | ok a => exact rest a rfl

/-- Lookups change nothing. -/
theorem of_reads
    {outcome : Except Failure α}
    (reads : Reads action session outcome) :
    Within kinds action session := by
  rw [Within, reads.perform_eq]
  exact .refl _ _

/-- A change of the session by one step. -/
protected theorem modify
    {kind : Kind}
    {change : Session -> Session}
    (changes : Change kind session (change session)) :
    Within [kind] (modify change : SessionAction PUnit) session :=
  .of_change changes

/-- A change of the world by one step. -/
theorem act_modify
    {kind : Kind}
    {change : World -> World}
    (changes : Change kind session { session with world := change session.world }) :
    Within [kind] (act (modify change : Action PUnit)) session :=
  .of_change changes

protected theorem mapM
    {each : α -> SessionAction β}
    (within : ∀ a session, Within kinds (each a) session)
    (items : List α)
    (session : Session) :
    Within kinds (items.mapM each) session := by
  induction items generalizing session with
  | nil => exact .pure _ _
  | cons head tail inductionHypothesis =>
      rw [List.mapM_cons]
      refine (within head session).bind ?_
      intro b after _
      exact (inductionHypothesis after).map _

/-- The steps of a loop may change what each of them may change. -/
protected theorem forIn
    {each : α -> β -> SessionAction (ForInStep β)}
    (within : ∀ a b session, Within kinds (each a b) session)
    (items : List α)
    (b : β)
    (session : Session) :
    Within kinds (forIn items b each) session := by
  induction items generalizing b session with
  | nil => exact .pure _ _
  | cons head tail inductionHypothesis =>
      rw [List.forIn_cons]
      refine (within head b session).bind ?_
      intro step after _
      cases step with
      | done result => exact .pure _ _
      | yield result => exact inductionHypothesis result after

end Within

end SessionAction
end Filtergraph
