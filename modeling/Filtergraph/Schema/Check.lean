import Filtergraph.Schema.Scalar

/-!
# Checking records

A document fits a schema when it is a record of that kind, or a table whose members fit the
fields.  Members that belong to no field are ignored.  A field takes the first of its names that
the table has, and faults are reported under that name.
-/

namespace Filtergraph
namespace Schema

/-- The members of a table. -/
abbrev Members := List (String × Value)

/-- Checks the member that the first name present leads to. -/
def field (names : List String) (absent : Verdict α) (check : Value -> Verdict α)
    (members : Members) : Verdict α :=
  match names.findSome? fun name => (Value.member? name members).map fun value => (name, value) with
  | some (name, value) => (check value).under (.name name)
  | none => absent

/-- A field that has to be present. -/
def required (name : String) (check : Value -> Verdict α) : Members -> Verdict α :=
  field [name] ((Verdict.fault .missing).under (.name name)) check

/-- A field that is null unless it is present. -/
def setting (name : String) (check : Value -> Verdict α) : Members -> Verdict (Option α) :=
  field [name] (.accepted none) (optional check)

/-- The members of a placement. -/
def placementMembers (members : Members) : Verdict Placement :=
  Placement.mk <$> field ["position"] (.accepted .absolute) position members
    <*> setting "x" operand members <*> setting "y" operand members
    <*> setting "top" operand members <*> setting "bottom" operand members
    <*> setting "left" operand members <*> setting "right" operand members

/-- The members of a size; the short names come first. -/
def sizeMembers (members : Members) : Verdict Size :=
  Size.mk <$> field ["w", "width"] (.accepted none) (optional integer) members
    <*> field ["h", "height"] (.accepted none) (optional integer) members

/-- The members of a window. -/
def windowMembers (members : Members) : Verdict Window :=
  Window.mk <$> setting "start" operand members <*> setting "end" operand members

/-- The members of an encoding. -/
def encodingMembers (members : Members) : Verdict Encoding :=
  Encoding.mk <$> required "kind" profile members <*> setting "crf" integer members
    <*> setting "preset" text members

/-- A record or a table, by the schema of the record. -/
def document (schema : Schema) (ofRecord? : Record -> Option α)
    (ofMembers : Members -> Verdict α) : Value -> Verdict α
  | .record r =>
    match ofRecord? r with
    | some a => .accepted a
    | none => .fault (.notRecord schema)
  | .table members => ofMembers members
  | _ => .fault (.notRecord schema)

/-- Checks a placement. -/
def checkPlacement : Value -> Verdict Placement :=
  document .placement (fun | .placement p => some p | _ => none) placementMembers

/-- Checks a size. -/
def checkSize : Value -> Verdict Size :=
  document .size (fun | .size s => some s | _ => none) sizeMembers

/-- Checks a window. -/
def checkWindow : Value -> Verdict Window :=
  document .window (fun | .window w => some w | _ => none) windowMembers

/-- Checks an encoding. -/
def checkEncoding : Value -> Verdict Encoding :=
  document .encoding (fun | .encoding e => some e | _ => none) encodingMembers

/-- Checks a video. -/
def checkVideo : Value -> Verdict Video :=
  document .video (fun | .video v => some v | _ => none) fun members =>
    Video.mk <$> required "src" text members

/-- Checks a list of texts. -/
def textList : Value -> Verdict (List String)
  | .list items => Verdict.list text 0 items
  | _ => .fault .notList

/-- Checks several inputs. -/
def checkMedia : Value -> Verdict Media :=
  document .media (fun | .media m => some m | _ => none) fun members =>
    Media.mk <$> required "inputs" textList members <*> setting "fmt" checkEncoding members

/-- Checks what is known about a file. -/
def checkAsset : Value -> Verdict Asset :=
  document .asset (fun | .asset a => some a | _ => none) fun members =>
    Asset.mk <$> required "path" text members <*> setting "width" integer members
      <*> setting "height" integer members <*> setting "duration" number members

/-- Checks the result of a command. -/
def checkResult : Value -> Verdict RunResult :=
  document .result (fun | .result r => some r | _ => none) fun members =>
    RunResult.mk <$> required "returncode" integer members
      <*> field ["stdout"] (.accepted "") text members
      <*> field ["stderr"] (.accepted "") text members

/-- Checks a document against a schema. -/
def check (schema : Schema) (value : Value) : Except Rejection Record :=
  match schema with
  | .placement => ((checkPlacement value).map .placement).toExcept .placement
  | .size => ((checkSize value).map .size).toExcept .size
  | .window => ((checkWindow value).map .window).toExcept .window
  | .encoding => ((checkEncoding value).map .encoding).toExcept .encoding
  | .video => ((checkVideo value).map .video).toExcept .video
  | .media => ((checkMedia value).map .media).toExcept .media
  | .asset => ((checkAsset value).map .asset).toExcept .asset
  | .result => ((checkResult value).map .result).toExcept .result

end Schema
end Filtergraph
