import Filtergraph.Session.Run

/-!
# Runs of operations

A run starts from a session with nothing in it.  The session that it reaches is that of all
operations but the last one, with a further step.
-/

namespace Filtergraph
namespace Session

theorem run_cons
    (session : Session)
    (operation : Operation)
    (script : List Outcome)
    (rest : List (Operation × List Outcome)) :
    (session.run ((operation, script) :: rest)).2 =
      ((session.step operation script).2.run rest).2 := rfl

theorem run_append
    (session : Session)
    (earlier later : List (Operation × List Outcome)) :
    (session.run (earlier ++ later)).2 = ((session.run earlier).2.run later).2 := by
  induction earlier generalizing session with
  | nil => rfl
  | cons entry rest inductionHypothesis =>
      obtain ⟨operation, script⟩ := entry
      rw [List.cons_append, run_cons, run_cons, inductionHypothesis]

/-- The session that operations reach. -/
def reached (operations : List (Operation × List Outcome)) : Session :=
  (({} : Session).run operations).2

end Session
end Filtergraph
