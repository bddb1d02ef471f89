import Filtergraph.Schema.Check

/-!
# Accepted documents

A document is accepted exactly if all of its parts are.  A setting is accepted if it is absent or
null, and otherwise exactly if its value is.
-/

namespace Filtergraph

namespace Verdict

variable {f : α -> β}
variable {verdict : Verdict α}
variable {b : β}

/-- What is changed is accepted if it was accepted before. -/
theorem functor_map_eq_accepted_iff :
    f <$> verdict = .accepted b ↔ ∃ a, verdict = .accepted a ∧ f a = b := by
  have applied : f <$> verdict = ap (.accepted f) verdict := rfl
  rw [applied]
  cases verdict <;> simp [ap]

/-- Joined parts are accepted if both are. -/
theorem seq_eq_accepted_iff
    {functions : Verdict (α -> β)} :
    functions <*> verdict = .accepted b ↔
      ∃ g a, functions = .accepted g ∧ verdict = .accepted a ∧ g a = b := by
  have applied : functions <*> verdict = ap functions verdict := rfl
  rw [applied]
  cases functions <;> cases verdict <;> simp [ap]

@[simp] theorem under_eq_accepted_iff
    {step : PathStep}
    {a : α} :
    verdict.under step = .accepted a ↔ verdict = .accepted a := by
  cases verdict <;> simp [under]

/-- Turning a rejection into a failure leaves what is accepted. -/
theorem mapError_toExcept_eq_ok_iff
    {schema : Schema}
    {fail : Rejection -> ε}
    {a : α} :
    (verdict.toExcept schema).mapError fail = .ok a ↔ verdict = .accepted a := by
  cases verdict with
  | accepted value =>
      exact ⟨fun same => congrArg _ (Except.ok.inj same),
        fun same => congrArg _ (accepted.inj same)⟩
  | rejected faults => exact ⟨nofun, nofun⟩

end Verdict

namespace Schema

/-- A field of one name looks at the member of that name. -/
theorem field_singleton
    (name : String)
    (absent : Verdict α)
    (check : Value -> Verdict α)
    (members : Members) :
    field [name] absent check members =
      match Value.member? name members with
      | some value => (check value).under (.name name)
      | none => absent := by
  rw [field]
  cases found : Value.member? name members <;> simp [found]

/-- A setting that is absent is as good as one that is null. -/
theorem setting_eq_accepted_iff
    {name : String}
    {check : Value -> Verdict α}
    {members : Members}
    {a : Option α} :
    setting name check members = .accepted a ↔
      optional check ((Value.member? name members).getD .null) = .accepted a := by
  rw [setting, field_singleton]
  cases Value.member? name members with
  | none => rfl
  | some value => exact Verdict.under_eq_accepted_iff

end Schema
end Filtergraph
