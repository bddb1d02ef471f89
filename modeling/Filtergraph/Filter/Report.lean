import Filtergraph.Failure

/-!
# Reports

A report is a result or a failure, together with the notes that were taken on the way.  The
notes survive a failure.
-/

namespace Filtergraph

/-- How much a note matters. -/
inductive Level where
  | debug
  | info
  | warning
  deriving DecidableEq, Repr

/-- The name of a level. -/
def Level.name : Level -> String
  | .debug => "DEBUG"
  | .info => "INFO"
  | .warning => "WARNING"

/-- Something worth writing down. -/
structure Note where
  /-- How much it matters. -/
  level : Level
  /-- What it says. -/
  message : String
  deriving DecidableEq, Repr

/-- A result or a failure, and the notes taken on the way. -/
structure Report (α : Type) where
  /-- The notes, the oldest first. -/
  notes : List Note
  /-- The result or the failure. -/
  outcome : Except Failure α

namespace Report

/-- Goes on with the result, and keeps the notes of both parts. -/
def andThen (report : Report α) (next : α -> Report β) : Report β :=
  match report.outcome with
  | .ok a => ⟨report.notes ++ (next a).notes, (next a).outcome⟩
  | .error failure => ⟨report.notes, .error failure⟩

instance : Monad Report where
  pure a := ⟨[], .ok a⟩
  bind := andThen

/-- A result or a failure without notes. -/
def ofExcept (outcome : Except Failure α) : Report α :=
  ⟨[], outcome⟩

/-- A note alone. -/
def note (level : Level) (message : String) : Report Unit :=
  ⟨[⟨level, message⟩], .ok ()⟩

@[simp] theorem andThen_notes_ok (notes : List Note) (a : α) (next : α -> Report β) :
    (andThen ⟨notes, .ok a⟩ next).notes = notes ++ (next a).notes := rfl

@[simp] theorem andThen_outcome_ok (notes : List Note) (a : α) (next : α -> Report β) :
    (andThen ⟨notes, .ok a⟩ next).outcome = (next a).outcome := rfl

@[simp] theorem andThen_error (notes : List Note) (failure : Failure) (next : α -> Report β) :
    andThen ⟨notes, .error failure⟩ next = ⟨notes, .error failure⟩ := rfl

end Report
end Filtergraph
