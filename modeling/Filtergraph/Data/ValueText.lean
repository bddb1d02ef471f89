import Filtergraph.Data.Value
import Filtergraph.Text.Quoted

/-!
# The text of values

A value is shown plainly, as where it stands in an argument, or quoted, as where it is part of
another value.  The two differ for texts and for records.  A value has no text if an integer in it
has none.
-/

namespace Filtergraph

/-- The spelling of a truth value. -/
def boolText (b : Bool) : String :=
  if b then "True" else "False"

/-- The spelling of the absent value. -/
def nullText : String := "None"

/-- The text of an integer, if it can be written. -/
def integerText? (n : Int) : Option String :=
  (Numeral.ofInt? n).map Numeral.text

/-- The quoted form of an operand. -/
def Operand.quoted? : Operand -> Option String
  | .text s => some (Text.quoted s)
  | operand => operand.render?

/-- The quoted form of a way of placing. -/
def Position.quoted : Position -> String
  | .absolute => "<Position.ABSOLUTE: 'absolute'>"
  | .relative => "<Position.RELATIVE: 'relative'>"

/-- The quoted form of a setting that may be absent. -/
def quotedOption? (quote : α -> Option String) : Option α -> Option String
  | some setting => quote setting
  | none => some nullText

/-- Items between brackets. -/
def bracketed (items : List String) : String :=
  "[" ++ ", ".intercalate items ++ "]"

/-- Named fields between parentheses behind a title. -/
def titledFields (title : String) (fields : List (String × String)) : String :=
  title ++ "(" ++ ", ".intercalate (fields.map fun field => field.1 ++ "=" ++ field.2) ++ ")"

/-- Named fields, if each of them has a text. -/
def fieldTexts? (fields : List (String × Option String)) : Option (List (String × String)) :=
  fields.mapM fun field => field.2.map (field.1, ·)

/-- The quoted fields of an encoding. -/
def Encoding.quotedFields? (e : Encoding) : Option (List (String × String)) :=
  fieldTexts? [("kind", some (Text.quoted e.profile.name)),
    ("crf", quotedOption? integerText? e.quality),
    ("preset", quotedOption? (some <| Text.quoted ·) e.preset)]

/-- The quoted form of an encoding. -/
def Encoding.quoted? (e : Encoding) : Option String :=
  e.quotedFields?.map (titledFields Schema.encoding.title)

namespace Record

/-- The fields of a record in quoted form. -/
def quotedFields? : Record -> Option (List (String × String))
  | .placement p =>
    fieldTexts? [("position", some p.position.quoted), ("x", quotedOption? Operand.quoted? p.x),
      ("y", quotedOption? Operand.quoted? p.y), ("top", quotedOption? Operand.quoted? p.top),
      ("bottom", quotedOption? Operand.quoted? p.bottom),
      ("left", quotedOption? Operand.quoted? p.left),
      ("right", quotedOption? Operand.quoted? p.right)]
  | .size s =>
    fieldTexts? [("width", quotedOption? integerText? s.width),
      ("height", quotedOption? integerText? s.height)]
  | .window w =>
    fieldTexts? [("start", quotedOption? Operand.quoted? w.start),
      ("end", quotedOption? Operand.quoted? w.finish)]
  | .encoding e => e.quotedFields?
  | .video v => some [("src", Text.quoted v.source)]
  | .media m =>
    fieldTexts? [("inputs", some (bracketed (m.inputs.map Text.quoted))),
      ("fmt", quotedOption? Encoding.quoted? m.encoding)]
  | .asset a =>
    fieldTexts? [("path", some (Text.quoted a.path)),
      ("width", quotedOption? integerText? a.width),
      ("height", quotedOption? integerText? a.height),
      ("duration", quotedOption? (some <| Double.text ·) a.duration)]
  | .result r =>
    fieldTexts? [("returncode", integerText? r.status), ("stdout", some (Text.quoted r.output)),
      ("stderr", some (Text.quoted r.errors))]

/-- The quoted form of a record: its title and its fields. -/
def quoted? (r : Record) : Option String :=
  r.quotedFields?.map (titledFields r.schema.title)

/-- The plain form of a record: its fields alone. -/
def plain? (r : Record) : Option String :=
  r.quotedFields?.map fun fields =>
    " ".intercalate (fields.map fun field => field.1 ++ "=" ++ field.2)

end Record

namespace Value

mutual

/-- The quoted form of a value. -/
def quoted? : Value -> Option String
  | .null => some nullText
  | .bool b => some (boolText b)
  | .int n => integerText? n
  | .double x => some x.text
  | .text s => some (Text.quoted s)
  | .list items => (quotedItems? items).map bracketed
  | .table members => do
    return "\x7b" ++ ", ".intercalate (← quotedMembers? members) ++ "\x7d"
  | .record r => r.quoted?

/-- The quoted forms of the items of a list. -/
def quotedItems? : List Value -> Option (List String)
  | [] => some []
  | item :: rest => do return (← quoted? item) :: (← quotedItems? rest)

/-- The quoted forms of the members of a table. -/
def quotedMembers? : List (String × Value) -> Option (List String)
  | [] => some []
  | (name, value) :: rest => do
    return (Text.quoted name ++ ": " ++ (← quoted? value)) :: (← quotedMembers? rest)

end

/-- The plain form of a value. -/
def plain? : Value -> Option String
  | .text s => some s
  | .record r => r.plain?
  | value => value.quoted?

@[simp] theorem plain?_text (s : String) : plain? (.text s) = some s := rfl

/-- The characters of a text.  Other values have none. -/
def characters : Value -> String
  | .text s => s
  | _ => ""

end Value
end Filtergraph
