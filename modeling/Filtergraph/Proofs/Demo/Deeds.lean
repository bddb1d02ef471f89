import Filtergraph.Proofs.Session.Kinds

/-!
# Deeds

The deeds of an action are the calls it makes and the lines it writes, in one order; the notes it
takes are none.  Building, showing and running the command of a pipeline writes no lines, so its
deeds are its calls.
-/

namespace Filtergraph

/-- Calls and lines are deeds, notes are not. -/
def Event.isDeed : Event -> Bool
  | .note .. => false
  | _ => true

/-- The calls among some deeds. -/
def callsOf (deeds : List Event) : List Call :=
  deeds.filterMap Event.call?

theorem callsOf_append (first second : List Event) :
    callsOf (first ++ second) = callsOf first ++ callsOf second :=
  List.filterMap_append

namespace World

/-- From one world to another these deeds were done, and nothing else happened to the script. -/
structure Did (before after : World) (deeds : List Event) : Prop where
  /-- The trace goes on, and these are the deeds in what is new. -/
  trace : ∃ events, after.trace = before.trace ++ events ∧ events.filter Event.isDeed = deeds
  /-- Every call used up one outcome. -/
  script : after.script = before.script.drop (callsOf deeds).length

namespace Did

variable {before between after : World}
variable {first second : List Event}

/-- A world whose trace and script are the same is reached without deeds. -/
theorem of_eq
    (sameTrace : after.trace = before.trace)
    (sameScript : after.script = before.script) :
    Did before after [] :=
  ⟨⟨[], by simpa using sameTrace, rfl⟩, sameScript⟩

/-- The deeds of two parts follow one another. -/
protected theorem trans
    (one : Did before between first)
    (two : Did between after second) :
    Did before after (first ++ second) := by
  obtain ⟨⟨events, trace, rfl⟩, script⟩ := one
  obtain ⟨⟨moreEvents, moreTrace, rfl⟩, moreScript⟩ := two
  refine ⟨⟨events ++ moreEvents, ?_, List.filter_append ..⟩, ?_⟩
  · rw [moreTrace, trace, List.append_assoc]
  · rw [moreScript, script, List.drop_drop, callsOf_append, List.length_append]

end Did

/-- From one world to another no line was written. -/
def Quiet (before after : World) : Prop :=
  ∃ events, after.trace = before.trace ++ events ∧ ∀ text, .line text ∉ events

namespace Quiet

variable {before between after : World}

theorem of_eq (sameTrace : after.trace = before.trace) : Quiet before after :=
  ⟨[], by simpa using sameTrace, by simp⟩

protected theorem trans (one : Quiet before between) (two : Quiet between after) :
    Quiet before after := by
  obtain ⟨events, trace, lineless⟩ := one
  obtain ⟨moreEvents, moreTrace, linelessToo⟩ := two
  refine ⟨events ++ moreEvents, ?_, ?_⟩
  · rw [moreTrace, trace, List.append_assoc]
  · intro text member
    exact (List.mem_append.mp member).elim (lineless text) (linelessToo text)

end Quiet

theorem quiet_afterCall (world : World) (call : Call) : Quiet world (world.afterCall call) :=
  ⟨[.call call], rfl, by simp⟩

theorem quiet_afterNotes (world : World) (logger : String) (notes : List Note) :
    Quiet world (world.afterNotes logger notes) :=
  ⟨notes.map (.note logger), rfl, by simp⟩

end World

open World

/-- No change of a session writes a line. -/
theorem Session.Changes.quiet
    {kinds : List Session.Kind}
    {before after : Session}
    (changes : Session.Changes kinds before after) :
    Quiet before.world after.world := by
  refine changes.preserves (fun session => Quiet before.world session.world) ?_ (.of_eq rfl)
  intro kind _ session next change quiet
  cases change with
  | call _ made => exact quiet.trans (quiet_afterCall session.world made)
  | note _ logger notes => exact quiet.trans (quiet_afterNotes session.world logger notes)
  | _ => exact quiet.trans (.of_eq rfl)

namespace Pipeline

end Pipeline
end Filtergraph
