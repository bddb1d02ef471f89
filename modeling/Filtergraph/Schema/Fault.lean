import Filtergraph.Data.Record

/-!
# Faults

A check of a document finds all of its faults, in the order of the fields.  A fault has a cause
and the path from the document to the part that is at fault.
-/

namespace Filtergraph

/-- One step from a document to a part of it. -/
inductive PathStep where
  | name (name : String)
  | index (index : Nat)
  deriving DecidableEq, Repr

/-- What is wrong with a part of a document. -/
inductive Cause where
  | missing
  | notRecord (schema : Schema)
  | notInteger
  | unreadableInteger
  | integerTooLong
  | fractional
  | notFinite
  | notNumber
  | unreadableNumber
  | notText
  | notList
  | unknownPosition
  | unknownProfile
  | frozen
  deriving DecidableEq, Repr

namespace Cause

/-- The short name of a cause. -/
def code : Cause -> String
  | .missing => "missing"
  | .notRecord _ => "model_type"
  | .notInteger => "int_type"
  | .unreadableInteger => "int_parsing"
  | .integerTooLong => "int_parsing_size"
  | .fractional => "int_from_float"
  | .notFinite => "finite_number"
  | .notNumber => "float_type"
  | .unreadableNumber => "float_parsing"
  | .notText => "string_type"
  | .notList => "list_type"
  | .unknownPosition => "enum"
  | .unknownProfile => "literal_error"
  | .frozen => "frozen_instance"

/-- The explanation of a cause. -/
def message : Cause -> String
  | .missing => "Field required"
  | .notRecord schema => "Input should be a valid dictionary or instance of " ++ schema.title
  | .notInteger => "Input should be a valid integer"
  | .unreadableInteger => "Input should be a valid integer, unable to parse string as an integer"
  | .integerTooLong => "Unable to parse input string as an integer, exceeded maximum size"
  | .fractional => "Input should be a valid integer, got a number with a fractional part"
  | .notFinite => "Input should be a finite number"
  | .notNumber => "Input should be a valid number"
  | .unreadableNumber => "Input should be a valid number, unable to parse string as a number"
  | .notText => "Input should be a valid string"
  | .notList => "Input should be a valid list"
  | .unknownPosition => "Input should be 'absolute' or 'relative'"
  | .unknownProfile => "Input should be 'h264', 'vp9' or 'copy_audio'"
  | .frozen => "Instance is frozen"

end Cause

/-- A cause and where it was found. -/
structure Fault where
  /-- The steps from the document to the part at fault. -/
  path : List PathStep
  /-- What is wrong there. -/
  cause : Cause
  deriving DecidableEq, Repr

/-- A document that does not fit its schema. -/
structure Rejection where
  /-- The schema. -/
  schema : Schema
  /-- All faults, in the order of the fields. -/
  faults : List Fault
  deriving DecidableEq, Repr

/-- The first line of the report of a rejection. -/
def Rejection.summary (rejection : Rejection) : String :=
  let count := rejection.faults.length
  toString count ++ (if count = 1 then " validation error for " else " validation errors for ") ++
    rejection.schema.title

end Filtergraph
