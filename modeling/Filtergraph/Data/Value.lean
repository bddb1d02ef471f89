import Filtergraph.Data.Record
import Filtergraph.Number.Comparison

/-!
# Values

Settings reach the library unchecked, and so do the reports of the probing tool.  A value is any
such datum: a scalar, a list, a table of named members in order, or a record that has been
checked already.
-/

namespace Filtergraph

/-- An unchecked datum. -/
inductive Value where
  | null
  | bool (b : Bool)
  | int (n : Int)
  | double (x : Double)
  | text (s : String)
  | list (items : List Value)
  | table (members : List (String × Value))
  | record (r : Record)
  deriving Inhabited, Repr

namespace Value

/-- The name of the type of a value, as messages give it. -/
def typeName : Value -> String
  | .null => "NoneType"
  | .bool _ => "bool"
  | .int _ => "int"
  | .double _ => "float"
  | .text _ => "str"
  | .list _ => "list"
  | .table _ => "dict"
  | .record r => r.schema.title

/-- Whether a value counts as true: null, false, zero and what is empty do not. -/
def isTrue : Value -> Bool
  | .null => false
  | .bool b => b
  | .int n => n != 0
  | .double x => !x.isZero
  | .text s => s != ""
  | .list items => !items.isEmpty
  | .table members => !members.isEmpty
  | .record _ => true

/-- Whether a value is a list. -/
def isList : Value -> Bool
  | .list _ => true
  | _ => false

/-- The items of a list.  Texts and tables have items too: characters and names, as texts. -/
def items? : Value -> Option (List Value)
  | .list items => some items
  | .text s => some (s.toList.map fun c => .text (String.ofList [c]))
  | .table members => some (members.map fun member => .text member.1)
  | _ => none

/-- The number that a value is; truth values count as zero and one. -/
def number? : Value -> Option Number
  | .bool b => some (.int (if b then 1 else 0))
  | .int n => some (.int n)
  | .double x => some (.double x)
  | _ => none

/-- The member of a name. -/
def member? (name : String) (members : List (String × Value)) : Option Value :=
  members.lookup name

/-- The value of an optional setting. -/
def ofOption (toValue : α -> Value) : Option α -> Value
  | some a => toValue a
  | none => .null

end Value

/-- The value of an operand. -/
def Operand.toValue : Operand -> Value
  | .int n => .int n
  | .double x => .double x
  | .text s => .text s

/-- The values of the fields of a record, in declaration order. -/
def Record.fields : Record -> List (String × Value)
  | .placement p =>
    [("position", .text p.position.name), ("x", .ofOption Operand.toValue p.x),
      ("y", .ofOption Operand.toValue p.y), ("top", .ofOption Operand.toValue p.top),
      ("bottom", .ofOption Operand.toValue p.bottom), ("left", .ofOption Operand.toValue p.left),
      ("right", .ofOption Operand.toValue p.right)]
  | .size s => [("width", .ofOption .int s.width), ("height", .ofOption .int s.height)]
  | .window w =>
    [("start", .ofOption Operand.toValue w.start), ("end", .ofOption Operand.toValue w.finish)]
  | .encoding e =>
    [("kind", .text e.profile.name), ("crf", .ofOption .int e.quality),
      ("preset", .ofOption .text e.preset)]
  | .video v => [("src", .text v.source)]
  | .media m =>
    [("inputs", .list (m.inputs.map .text)),
      ("fmt", .ofOption (fun e => .record (.encoding e)) m.encoding)]
  | .asset a =>
    [("path", .text a.path), ("width", .ofOption .int a.width),
      ("height", .ofOption .int a.height), ("duration", .ofOption .double a.duration)]
  | .result r =>
    [("returncode", .int r.status), ("stdout", .text r.output), ("stderr", .text r.errors)]

/-- Every record lists the fields of its schema. -/
theorem Record.fields_names (r : Record) : r.fields.map Prod.fst = r.schema.fieldNames := by
  cases r <;> rfl

end Filtergraph
