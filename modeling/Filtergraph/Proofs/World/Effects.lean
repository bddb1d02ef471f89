import Filtergraph.World.Pipeline

/-!
# Effects of actions

Whatever an action does, it only adds to the trace, and each call uses up one outcome of the
script.  The actions that come before a command ask tools for their releases and bind pipelines;
they leave all filters, and the filters of every pipeline, as they are.
-/

namespace Filtergraph

/-- The call that an event is, if it is one. -/
def Event.call? : Event -> Option Call
  | .call made => some made
  | _ => none

/-- The call asks a tool for its release. -/
def Call.AsksRelease (call : Call) : Prop :=
  ∃ tool, call = releaseCall tool

namespace World

/-- The outcome of the next call. -/
def nextOutcome (world : World) : Outcome :=
  world.script.head?.getD .silent

/-- The outcome of the call at a position among those to come. -/
def outcomeAt (world : World) (position : Nat) : Outcome :=
  world.script[position]?.getD .silent

/-- The world after a call. -/
def afterCall (world : World) (call : Call) : World :=
  { world.record (.call call) with script := world.script.tail }

/-- The world after some notes. -/
def afterNotes (world : World) (logger : String) (notes : List Note) : World :=
  { world with trace := world.trace ++ notes.map (.note logger) }

/-- The world with another trace. -/
def withTrace (world : World) (trace : List Event) : World :=
  { world with trace }

/-- The world with a further context. -/
def addContext (world : World) (context : Context) : World :=
  { world with contexts := world.contexts ++ [context] }

/-- The world in which a pipeline is bound to a context. -/
def bindPipeline (world : World) (id : PipelineId) (context : ContextId) : World :=
  world.setPipeline id { world.pipeline id with context := some context }

/-- The worlds differ in nothing but the trace and the script. -/
def Alike (before after : World) : Prop :=
  after = { before with trace := after.trace, script := after.script }

/-! ## Calls and outcomes -/

/-- From one world to another calls were made, and nothing else happened to the script. -/
structure Called (before after : World) (made : List Call) : Prop where
  /-- The trace goes on, and these are the calls in what is new. -/
  trace : ∃ events, after.trace = before.trace ++ events ∧ events.filterMap Event.call? = made
  /-- Every call used up one outcome. -/
  script : after.script = before.script.drop made.length

namespace Called

variable {before between after : World}
variable {first second : List Call}

/-- A world whose trace and script are the same is reached without calls. -/
theorem of_eq
    (sameTrace : after.trace = before.trace)
    (sameScript : after.script = before.script) :
    Called before after [] :=
  ⟨⟨[], by simpa using sameTrace, rfl⟩, sameScript⟩

protected theorem refl (world : World) : Called world world [] :=
  of_eq rfl rfl

/-- The calls of two parts follow one another. -/
protected theorem trans
    (one : Called before between first)
    (two : Called between after second) :
    Called before after (first ++ second) := by
  obtain ⟨⟨events, trace, rfl⟩, script⟩ := one
  obtain ⟨⟨moreEvents, moreTrace, rfl⟩, moreScript⟩ := two
  refine ⟨⟨events ++ moreEvents, ?_, List.filterMap_append⟩, ?_⟩
  · rw [moreTrace, trace, List.append_assoc]
  · rw [moreScript, script, List.drop_drop, List.length_append]

/-- What changes neither the trace nor the script adds no calls. -/
theorem unchanged
    (called : Called before between first)
    (sameTrace : after.trace = between.trace)
    (sameScript : after.script = between.script) :
    Called before after first := by
  simpa using called.trans (of_eq sameTrace sameScript)

/-- After some calls, the next outcome is the one behind those that were used up. -/
theorem nextOutcome_eq (called : Called before after first) :
    after.nextOutcome = before.outcomeAt first.length := by
  rw [nextOutcome, outcomeAt, called.script, List.head?_drop]

end Called

/-- A call takes the next outcome from the script. -/
theorem called_afterCall (world : World) (call : Call) :
    Called world (world.afterCall call) [call] :=
  ⟨⟨[.call call], rfl, rfl⟩, List.drop_one.symm⟩

theorem called_afterNotes (world : World) (logger : String) (notes : List Note) :
    Called world (world.afterNotes logger notes) [] := by
  refine ⟨⟨notes.map (.note logger), rfl, ?_⟩, rfl⟩
  rw [List.filterMap_map, List.filterMap_eq_nil_iff]
  intro note _
  rfl

/-! ## What stays before a command -/

/-- What may happen before a command: tools are asked for their releases, and neither filters nor
the filters of pipelines change. -/
structure Prepares (before after : World) : Prop where
  filters : after.filters = before.filters
  pipelineFilters : ∀ id, (after.pipeline id).filters = (before.pipeline id).filters
  calls : ∃ made, Called before after made ∧ ∀ call ∈ made, call.AsksRelease

namespace Prepares

variable {before between after : World}

/-- Nothing that is called, and no change to filters or pipelines. -/
theorem of_called_nil
    (sameFilters : after.filters = before.filters)
    (samePipelines : after.pipelines = before.pipelines)
    (called : Called before after []) :
    Prepares before after where
  filters := sameFilters
  pipelineFilters := fun id => by rw [pipeline, pipeline, samePipelines]
  calls := ⟨[], called, by simp⟩

protected theorem refl (world : World) : Prepares world world :=
  of_called_nil rfl rfl (.refl world)

protected theorem trans
    (one : Prepares before between)
    (two : Prepares between after) :
    Prepares before after := by
  obtain ⟨made, called, asks⟩ := one.calls
  obtain ⟨more, calledToo, asksToo⟩ := two.calls
  refine ⟨two.filters.trans one.filters, ?_, made ++ more, called.trans calledToo, ?_⟩
  · intro id
    rw [two.pipelineFilters, one.pipelineFilters]
  · intro call member
    rcases List.mem_append.mp member with early | late
    · exact asks call early
    · exact asksToo call late

/-- The filters of numbers are the same as before. -/
theorem filter_eq (prepares : Prepares before after) : after.filter = before.filter := by
  funext id
  rw [filter, filter, prepares.filters]

/-- Pipelines hold the same filters as before. -/
theorem pipelineFilters_eq
    (prepares : Prepares before after)
    (id : PipelineId) :
    after.pipelineFilters id = before.pipelineFilters id := by
  rw [World.pipelineFilters, World.pipelineFilters, prepares.filter_eq, prepares.pipelineFilters]

end Prepares

theorem prepares_afterCall (world : World) (tool : Word) :
    Prepares world (world.afterCall (releaseCall tool)) where
  filters := rfl
  pipelineFilters := fun _ => rfl
  calls := by
    refine ⟨[releaseCall tool], called_afterCall world _, ?_⟩
    intro call member
    exact ⟨tool, List.mem_singleton.mp member⟩

theorem prepares_afterNotes (world : World) (logger : String) (notes : List Note) :
    Prepares world (world.afterNotes logger notes) :=
  .of_called_nil rfl rfl (called_afterNotes world logger notes)

theorem prepares_addContext (world : World) (context : Context) :
    Prepares world (world.addContext context) :=
  .of_called_nil rfl rfl (.of_eq rfl rfl)

theorem prepares_setContext (world : World) (id : ContextId) (context : Context) :
    Prepares world (world.setContext id context) :=
  .of_called_nil rfl rfl (.of_eq rfl rfl)

/-! ## Binding -/

/-- Pipelines, their contexts and the default context are the same. -/
structure SameBindings (before after : World) : Prop where
  pipelines : after.pipelines = before.pipelines
  defaultContext : after.defaultContext = before.defaultContext

section Alike

variable {before after : World}

theorem Alike.refl (world : World) : Alike world world := rfl

theorem Alike.sameBindings (alike : Alike before after) : SameBindings before after := by
  rw [alike]
  exact ⟨rfl, rfl⟩

/-- Notes change no context. -/
theorem Alike.context_eq (alike : Alike before after) : after.context = before.context := by
  rw [alike]
  rfl

end Alike

/-- Putting what is there in its place changes nothing. -/
theorem set_getD (items : List α) (position : Nat) (absent : α) :
    items.set position (items[position]?.getD absent) = items := by
  by_cases inside : position < items.length
  · rw [List.getElem?_eq_getElem inside, Option.getD_some, List.set_getElem_self inside]
  · exact List.set_eq_of_length_le (Nat.le_of_not_lt inside)

/-- Changing a pipeline that is not there changes nothing. -/
theorem pipeline_setPipeline (world : World) (id other : PipelineId) (pipeline : Pipeline) :
    (world.setPipeline id pipeline).pipeline other =
      if other = id ∧ id < world.pipelines.length then pipeline else world.pipeline other := by
  rw [World.pipeline, setPipeline, World.pipeline, List.getElem?_set]
  by_cases same : id = other
  · subst other
    by_cases inside : id < world.pipelines.length <;> simp [inside]
  · simp [same, Ne.symm same]

/-- Binding a pipeline changes none of its filters. -/
theorem prepares_bindPipeline (world : World) (id : PipelineId) (context : ContextId) :
    Prepares world (world.bindPipeline id context) where
  filters := rfl
  pipelineFilters := fun other => by
    rw [bindPipeline, pipeline_setPipeline]
    split
    · next same => rw [same.1]
    · rfl
  calls := ⟨[], .of_eq rfl rfl, by simp⟩

end World
end Filtergraph
