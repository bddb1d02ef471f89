import Filtergraph.Failure
import Filtergraph.Schema.Check

/-!
# Drafts

A draft is a value in which some parts have yet to be checked against a schema, or to be read as
doubles.  Resolving it does so from the inside out and from left to right.
-/

namespace Filtergraph

/-- A value with parts that have yet to be checked. -/
inductive Draft where
  | plain (value : Value)
  | double (text : String)
  | list (items : List Draft)
  | table (members : List (String × Draft))
  | record (schema : Schema) (document : Draft)
  deriving Inhabited, Repr

namespace Draft

mutual

/-- The value of a draft. -/
def resolve : Draft -> Except Failure Value
  | .plain v => .ok v
  | .double s =>
    match Double.readLenient? s with
    | some x => .ok (.double x)
    | none => .error (.wrongValue (.double s))
  | .list items => do return .list (← resolveItems items)
  | .table members => do return .table (← resolveMembers members)
  | .record schema document => do
    return .record (← (schema.check (← resolve document)).mapError .rejected)

/-- The values of the items of a list. -/
def resolveItems : List Draft -> Except Failure (List Value)
  | [] => .ok []
  | item :: rest => do return (← resolve item) :: (← resolveItems rest)

/-- The values of the members of a table. -/
def resolveMembers : List (String × Draft) -> Except Failure (List (String × Value))
  | [] => .ok []
  | (name, draft) :: rest => do return (name, ← resolve draft) :: (← resolveMembers rest)

end

/-- The members of a draft of a table; other drafts have none. -/
def members (draft : Draft) : Except Failure Schema.Members := do
  match ← draft.resolve with
  | .table members => return members
  | _ => return []

/-- The value of a draft that may be absent. -/
def resolveOption (draft : Option Draft) (absent : Value) : Except Failure Value :=
  match draft with
  | some draft => draft.resolve
  | none => .ok absent

/-- The value of a draft as a word. -/
def word (draft : Draft) : Except Failure Word := do
  Word.ofValue (← draft.resolve)

/-- The value of a draft that may be absent, as a word. -/
def wordOption (draft : Option Draft) (absent : Word) : Except Failure Word :=
  match draft with
  | some draft => draft.word
  | none => .ok absent

end Draft
end Filtergraph
