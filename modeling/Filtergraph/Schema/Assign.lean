import Filtergraph.Failure

/-!
# Changing records

The fields of a frozen record cannot be changed.  The fields of other records take any value, and
nothing is checked.  Names that start with an underscore are no fields: a few of them stand for
what every object has, all fields at once among them, and the others go unnoticed.
-/

namespace Filtergraph

/-- The fields of a record that has been changed, by their names. -/
abbrev Attributes := List (String × Value)

/-- The name for the kind of an object. -/
def kindName : String := "__class__"

/-- The name for all attributes of an object at once. -/
def attributesName : String := "__dict__"

/-- The name for the references to an object that do not keep it alive. -/
def referencesName : String := "__weakref__"

/-- The failure to change what every object has.  Objects are of a named type, and have their
references from the type of the second name. -/
def checkReserved (referencesFrom name : String) (value : Value) : Except Failure Unit :=
  if name = kindName then .error (.wrongType (.kind value.typeName))
  else if name = referencesName then
    .error (.wrongAttribute (.fixed referencesName referencesFrom))
  else if name = attributesName then
    match value with
    | .table _ => .ok ()
    | value => .error (.wrongType (.attributes value.typeName))
  else .ok ()

/-- All attributes at once, if a name stands for them and they are given. -/
def allAttributes? (name : String) : Value -> Option Attributes
  | .table members => if name = attributesName then some members else none
  | _ => none

namespace Schema

/-- The properties of all schemas that are computed, under names that no field can have. -/
def hidden : List String := ["__fields__", "__fields_set__"]

/-- The properties of a schema that are computed, under names that fields can have. -/
def computed : Schema -> List String
  | .size => ["is_complete", "model_extra", "model_fields_set"]
  | .result => ["ok", "model_extra", "model_fields_set"]
  | _ => ["model_extra", "model_fields_set"]

/-- The values of the fields of a schema among attributes.  The first that is absent is a
failure. -/
def fieldsAmong (schema : Schema) (attributes : Attributes) : Except Failure Attributes :=
  schema.fieldNames.mapM fun name =>
    match attributes.lookup name with
    | some value => .ok (name, value)
    | none => .error (.wrongAttribute (.absent schema.title name))

end Schema

namespace Record

/-- The attributes of a record after something other than a field is given a new value. -/
def assignReserved (r : Record) (name : String) (value : Value) : Except Failure Attributes := do
  if Schema.hidden.contains name then
    throw (.wrongAttribute (.readOnly name r.schema.title))
  checkReserved r.schema.title name value
  return (allAttributes? name value).getD r.fields

/-- The attributes of a record after one of them is given a new value. -/
def assign (r : Record) (name : String) (value : Value) : Except Failure Attributes :=
  if name.toList.head? = some '_' then r.assignReserved name value
  else if r.schema.isFrozen then
    .error (.rejected ⟨r.schema, [⟨[.name name], .frozen⟩]⟩)
  else if r.schema.computed.contains name then
    .error (.wrongAttribute (.readOnly name r.schema.title))
  else if r.schema.fieldNames.contains name then
    .ok (r.fields.map fun field => if field.1 == name then (name, value) else field)
  else .error (.wrongValue (.field r.schema.title name))

end Record
end Filtergraph
