import Filtergraph.World.Basic

/-!
# Written outcomes

The outcome of a call can be written down as a table.  The members `missing`, `refused` and
`expired` tell why there is no result; otherwise the table tells the exit status and the output,
and what it leaves out is a success without output.  A status without a text is not known.
-/

namespace Filtergraph
namespace Outcome

/-- A member that may be a text or null, and is empty if it is absent. -/
def textMember (name : String) (members : Schema.Members) : Option String :=
  match Value.member? name members with
  | none => some ""
  | some (.text s) => some s
  | some _ => none

/-- The outcome that a table describes. -/
def ofMembers (members : Schema.Members) : Outcome :=
  match Value.member? "missing" members, Value.member? "refused" members,
    Value.member? "expired" members with
  | some reason, _, _ => .missing reason.characters
  | none, some message, _ => .refused .general message.characters
  | none, none, some _ => .expired
  | none, none, none =>
    .finished ((Word.ofValue? ((Value.member? "status" members).getD (.int 0))).getD .null)
      (textMember "output" members) (textMember "errors" members)

/-- The outcome that a value describes. -/
def ofValue : Value -> Outcome
  | .table members => ofMembers members
  | _ => silent

end Outcome
end Filtergraph
