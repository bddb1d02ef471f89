import Filtergraph.Data.Compare
import Filtergraph.Data.Numeral
import Filtergraph.Data.Word
import Filtergraph.FileTree
import Filtergraph.Schema.Fault

/-!
# Failures

Everything that can go wrong, by its cause.  Each cause has one message.
-/

namespace Filtergraph

/-- The settings of a watermark that are checked against a schema. -/
inductive Setting where
  | coordinates
  | scale
  | time
  deriving DecidableEq, Repr

/-- The name of a setting. -/
def Setting.name : Setting -> String
  | .coordinates => "coordinates"
  | .scale => "scale"
  | .time => "time"

/-- The external tools. -/
inductive Tool where
  | encoder
  | prober
  deriving DecidableEq, Repr

/-- The name of a tool in messages. -/
def Tool.name : Tool -> String
  | .encoder => "FFmpeg"
  | .prober => "FFprobe"

/-- A tool cannot be used, or its command did not succeed. -/
inductive ToolFailure where
  | notFound (tool : Tool) (reason : String)
  | notWorking (tool : Tool) (errors : Option String)
  | verificationTimedOut
  | commandTimedOut (limit : Word)
  | commandFailed (errors : String)
  deriving Repr

/-- The message of a tool failure. -/
def ToolFailure.message : ToolFailure -> String
  | .notFound tool reason => tool.name ++ " not found. Please install FFmpeg: " ++ reason
  | .notWorking tool errors => tool.name ++ " not working: " ++ errors.getD nullText
  | .verificationTimedOut => "FFmpeg verification timed out"
  | .commandTimedOut limit => "FFmpeg timed out after " ++ limit.plain ++ "s"
  | .commandFailed errors => "FFmpeg failed: " ++ errors

/-- A value of a type that an operation has no meaning for. -/
inductive WrongType where
  | path (typeName : String)
  | priorities (types : Value.Unordered)
  | items (typeName : String)
  | word (position : Nat) (typeName : String)
  | wordless
  | document (typeName : String)
  | number (typeName : String)
  | keyword (maker name : String)
  | behaviour (typeName : String)
  | kind (typeName : String)
  | attributes (typeName : String)
  deriving DecidableEq, Repr

/-- The message of a wrong type. -/
def WrongType.message : WrongType -> String
  | .path typeName =>
    "stat: path should be string, bytes, os.PathLike or integer, not " ++ typeName
  | .priorities types =>
    "'<' not supported between instances of '" ++ types.left ++ "' and '" ++ types.right ++ "'"
  | .items typeName => "'" ++ typeName ++ "' object is not iterable"
  | .word position typeName =>
    "sequence item " ++ toString position ++ ": expected str instance, " ++ typeName ++ " found"
  | .wordless => "can only join an iterable"
  | .document typeName =>
    "the JSON object must be str, bytes or bytearray, not " ++ typeName
  | .number typeName =>
    "float() argument must be a string or a real number, not '" ++ typeName ++ "'"
  | .keyword maker name =>
    maker ++ "() got an unexpected keyword argument '" ++ name ++ "'"
  | .behaviour typeName => "'" ++ typeName ++ "' object is not callable"
  | .kind typeName => "__class__ must be set to a class, not '" ++ typeName ++ "' object"
  | .attributes typeName => "__dict__ must be set to a dictionary, not a '" ++ typeName ++ "'"

/-- A value that an object does not have, or that cannot be given a new value. -/
inductive WrongAttribute where
  | absent (typeName name : String)
  | readOnly (name typeName : String)
  | fixed (name typeName : String)
  deriving DecidableEq, Repr

/-- The message of a wrong attribute. -/
def WrongAttribute.message : WrongAttribute -> String
  | .absent typeName name => "'" ++ typeName ++ "' object has no attribute '" ++ name ++ "'"
  | .readOnly name typeName =>
    "property '" ++ name ++ "' of '" ++ typeName ++ "' object has no setter"
  | .fixed name typeName =>
    "attribute '" ++ name ++ "' of '" ++ typeName ++ "' objects is not writable"

/-- A value of the right type that an operation cannot use. -/
inductive WrongValue where
  | numeral (tooLong : TooLong)
  | unwritable
  | encoding (kind : String)
  | double (s : String)
  | field (title name : String)
  | reported (message : String)
  deriving DecidableEq, Repr

/-- The message of a wrong value. -/
def WrongValue.message : WrongValue -> String
  | .numeral tooLong =>
    "Exceeds the limit (" ++ toString digitLimit ++
      " digits) for integer string conversion: value has " ++ toString tooLong.digits ++
      " digits; use sys.set_int_max_str_digits() to increase the limit"
  | .unwritable =>
    "Exceeds the limit (" ++ toString digitLimit ++
      " digits) for integer string conversion; use sys.set_int_max_str_digits() " ++
      "to increase the limit"
  | .encoding kind => "Unknown output format: " ++ kind
  | .double s => "could not convert string to float: " ++ Text.quoted s
  | .field title name => "\"" ++ title ++ "\" object has no field \"" ++ name ++ "\""
  | .reported message => message

/-- A number outside the range of its use. -/
inductive OutOfRange where
  | double
  | handleAbove
  | handleBelow
  deriving DecidableEq, Repr

/-- The message of a number out of range. -/
def OutOfRange.message : OutOfRange -> String
  | .double => "int too large to convert to float"
  | .handleAbove => "fd is greater than maximum"
  | .handleBelow => "fd is less than minimum"

/-- The operating system refuses to start a tool. -/
inductive Refusal where
  | permission
  | general
  deriving DecidableEq, Repr

/-- The message of a fault of a path. -/
def PathError.message (error : PathError) : String :=
  match error.fault.number? with
  | some number =>
    "[Errno " ++ toString number ++ "] " ++ error.fault.text ++ ": " ++ Text.quoted error.path
  | none => error.fault.text

/-- Why an operation fails. -/
inductive Failure where
  /-- A document does not fit its schema. -/
  | rejected (rejection : Rejection)
  /-- The picture of a watermark is no existing file. -/
  | noPicture (path : Word)
  /-- A setting of a watermark does not fit its schema. -/
  | badSetting (setting : Setting) (rejection : Rejection)
  /-- The tool is older than a filter needs. -/
  | toolTooOld (filter required found : String)
  /-- No object goes by the name. -/
  | unknownName (name : String)
  | tool (failure : ToolFailure)
  | wrongType (error : WrongType)
  | wrongAttribute (error : WrongAttribute)
  | wrongValue (error : WrongValue)
  | outOfRange (error : OutOfRange)
  | refused (refusal : Refusal) (message : String)
  | badPath (error : PathError)
  /-- A report nests too deep to be read. -/
  | tooDeep (inList : Bool)
  deriving Repr

/-- The message of a failure. -/
def Failure.message : Failure -> String
  | .rejected rejection => rejection.summary
  | .noPicture path => "File " ++ path.plain ++ " does not exist"
  | .badSetting setting rejection =>
    "Invalid " ++ setting.name ++ " configuration: " ++ rejection.summary
  | .toolTooOld filter required found =>
    "Filter '" ++ filter ++ "' requires FFmpeg >= " ++ required ++ ", found " ++ found
  | .unknownName name => name
  | .tool failure => failure.message
  | .wrongType error => error.message
  | .wrongAttribute error => error.message
  | .wrongValue error => error.message
  | .outOfRange error => error.message
  | .refused _ message => message
  | .badPath error => error.message
  | .tooDeep inList =>
    "maximum recursion depth exceeded while decoding a JSON " ++
      (if inList then "array" else "object") ++ " from a unicode string"

/-- What has been written, or the failure of something that cannot be written. -/
def Failure.written : Option α -> Except Failure α
  | some a => .ok a
  | none => .error (.wrongValue .unwritable)

@[simp] theorem Failure.written_some (a : α) : written (some a) = .ok a := rfl

@[simp] theorem Failure.written_none :
    written (none : Option α) = .error (.wrongValue .unwritable) := rfl

/-- What is written does not fail, and stays the same. -/
@[simp] theorem Failure.written_eq_ok_iff {parts : Option α} {a : α} :
    written parts = .ok a ↔ parts = some a := by
  cases parts <;> simp

/-- The word of a value, which has to be written. -/
def Word.ofValue (value : Value) : Except Failure Word :=
  Failure.written (ofValue? value)

@[simp] theorem Word.ofValue_text (s : String) : ofValue (.text s) = .ok (.text s) := rfl

end Filtergraph
