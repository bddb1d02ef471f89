import Filtergraph.Proofs.Schema.Verdicts

/-!
# Records and the tables of their fields

A checked record is no more than the values of its fields: the table of these fits the schema, and
what it is validated as is the record.
-/

namespace Filtergraph

/-! ## Accepted parts -/

namespace Verdict

@[simp] theorem map_accepted (f : α -> β) (a : α) : (accepted a).map f = .accepted (f a) := rfl

@[simp] theorem functor_map_accepted (f : α -> β) (a : α) :
    f <$> accepted a = .accepted (f a) := rfl

@[simp] theorem seq_accepted (f : α -> β) (a : α) :
    accepted f <*> accepted a = .accepted (f a) := rfl

@[simp] theorem under_accepted (step : PathStep) (a : α) :
    (accepted a).under step = .accepted a := rfl

@[simp] theorem toExcept_accepted (schema : Schema) (a : α) :
    (accepted a).toExcept schema = .ok a := rfl

end Verdict

namespace Schema

/-! ## Fields -/

@[simp] theorem text_text (s : String) : text (.text s) = .accepted s := rfl

@[simp] theorem integer_int (n : Int) : integer (.int n) = .accepted n := rfl

/-- A position is read back from its name. -/
@[simp] theorem position_name (p : Position) : position (.text p.name) = .accepted p := by
  cases p <;> rfl

/-- So is a profile. -/
@[simp] theorem profile_name (p : Profile) : profile (.text p.name) = .accepted p := by
  cases p <;> rfl

/-- A list of texts passes item by item, wherever its numbering starts. -/
@[simp] theorem list_text (texts : List String) (start : Nat) :
    Verdict.list text start (texts.map .text) = .accepted texts := by
  induction texts generalizing start with
  | nil => rfl
  | cons s rest inductionHypothesis =>
      rw [List.map_cons, Verdict.list, inductionHypothesis]
      rfl

/-- A setting that may be absent is accepted if its values are. -/
theorem optional_ofOption
    (check : Value -> Verdict α)
    (toValue : α -> Value)
    (given : ∀ a, toValue a ≠ .null)
    (accepts : ∀ a, check (toValue a) = .accepted a)
    (setting : Option α) :
    optional check (.ofOption toValue setting) = .accepted setting := by
  cases setting with
  | none => rfl
  | some a =>
      rw [Value.ofOption, optional, accepts a]
      · rfl
      · exact given a

/-- An operand that was accepted once is accepted again as what it was; this is why numbers and
texts must not be taken for each other. -/
@[simp] theorem optional_operand (setting : Option Operand) :
    optional operand (.ofOption Operand.toValue setting) = .accepted setting := by
  refine optional_ofOption operand Operand.toValue ?_ ?_ setting
  · intro o
    cases o <;> nofun
  · intro o
    cases o <;> rfl

/-- The same holds of an integer. -/
@[simp] theorem optional_integer (setting : Option Int) :
    optional integer (.ofOption .int setting) = .accepted setting :=
  optional_ofOption integer .int nofun (fun _ => rfl) setting

@[simp] theorem optional_number (setting : Option Double) :
    optional number (.ofOption .double setting) = .accepted setting :=
  optional_ofOption number .double nofun (fun _ => rfl) setting

@[simp] theorem optional_text (setting : Option String) :
    optional text (.ofOption .text setting) = .accepted setting :=
  optional_ofOption text .text nofun (fun _ => rfl) setting

/-- A record in the place of a setting is not checked again. -/
@[simp] theorem optional_encoding (setting : Option Encoding) :
    optional checkEncoding (.ofOption (fun e => .record (.encoding e)) setting) =
      .accepted setting :=
  optional_ofOption checkEncoding (fun e => .record (.encoding e)) nofun (fun _ => rfl) setting

/-! ## Records -/

/-- Nothing has a name in an empty table. -/
@[simp] theorem member?_nil (name : String) : Value.member? name [] = none := rfl

/-- The member of a name comes before all members behind it. -/
@[simp] theorem member?_cons (name : String) (entry : String × Value) (rest : Members) :
    Value.member? name (entry :: rest) =
      if name = entry.1 then some entry.2 else Value.member? name rest := by
  rw [Value.member?, List.lookup_cons]
  by_cases same : name = entry.1
  · simp [same]
  · simp [same, beq_eq_false_iff_ne.mpr same, Value.member?]

/-- The members of a first name count before those of the names behind it. -/
@[simp] theorem field_cons
    (name : String)
    (names : List String)
    (absent : Verdict α)
    (check : Value -> Verdict α)
    (members : Members) :
    field (name :: names) absent check members =
      match Value.member? name members with
      | some value => (check value).under (.name name)
      | none => field names absent check members := by
  rw [field, List.findSome?_cons]
  cases Value.member? name members <;> rfl

/-- A list of texts is accepted as what it is. -/
@[simp] theorem textList_text (texts : List String) :
    textList (.list (texts.map .text)) = .accepted texts :=
  list_text texts 0

/-- The fields of a placement validate as that placement. -/
theorem placementMembers_fields (p : Placement) :
    placementMembers (Record.placement p).fields = .accepted p := by
  simp [Record.fields, placementMembers, setting]

/-- The fields of a size have its long names and validate as that size. -/
theorem sizeMembers_fields (s : Size) :
    sizeMembers (Record.size s).fields = .accepted s := by
  simp [Record.fields, sizeMembers]

/-- The fields of a window validate as that window. -/
theorem windowMembers_fields (w : Window) :
    windowMembers (Record.window w).fields = .accepted w := by
  simp [Record.fields, windowMembers, setting]

/-- The table of the fields of a record is validated as the record. -/
theorem check_fields (record : Record) :
    record.schema.check (.table record.fields) = .ok record := by
  cases record with
  | placement p =>
      simp [Record.schema, check, checkPlacement, document, placementMembers_fields]
  | size s =>
      simp [Record.schema, check, checkSize, document, sizeMembers_fields]
  | window w =>
      simp [Record.schema, check, checkWindow, document, windowMembers_fields]
  | encoding e =>
      simp [Record.schema, Record.fields, check, checkEncoding, document, encodingMembers,
        setting, required]
  | video v =>
      simp [Record.schema, Record.fields, check, checkVideo, document, required]
  | media m =>
      simp [Record.schema, Record.fields, check, checkMedia, document, required, setting]
  | asset a =>
      simp [Record.schema, Record.fields, check, checkAsset, document, required, setting]
  | result r =>
      simp [Record.schema, Record.fields, check, checkResult, document, required]

end Schema
end Filtergraph
