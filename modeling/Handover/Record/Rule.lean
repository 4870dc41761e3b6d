namespace Handover

inductive Rule where
  | missing
  | extraForbidden
  | stringType
  | stringTooShort
  | stringTooLong
  | stringUnicode
  | enum
  | boolType
  | boolParsing
  | intType
  | intParsing
  | intParsingSize
  | intFromFloat
  | finiteNumber
  | greaterThanEqual
  | lessThanEqual
  | frozenInstance
  | modelType
  | jsonInvalid
  deriving DecidableEq, Repr

def Rule.label : Rule → String
  | .missing => "missing"
  | .extraForbidden => "extra_forbidden"
  | .stringType => "string_type"
  | .stringTooShort => "string_too_short"
  | .stringTooLong => "string_too_long"
  | .stringUnicode => "string_unicode"
  | .enum => "enum"
  | .boolType => "bool_type"
  | .boolParsing => "bool_parsing"
  | .intType => "int_type"
  | .intParsing => "int_parsing"
  | .intParsingSize => "int_parsing_size"
  | .intFromFloat => "int_from_float"
  | .finiteNumber => "finite_number"
  | .greaterThanEqual => "greater_than_equal"
  | .lessThanEqual => "less_than_equal"
  | .frozenInstance => "frozen_instance"
  | .modelType => "model_type"
  | .jsonInvalid => "json_invalid"

/-- A broken rule and the field that breaks it; no field if it is the record as a whole. -/
structure Violation where
  field : Option String
  rule : Rule
  deriving DecidableEq, Repr

inductive RecordKind where
  | network
  | accessPoint
  deriving DecidableEq, Repr

def RecordKind.label : RecordKind → String
  | .network => "NetworkRecord"
  | .accessPoint => "AccessPointRecord"

structure RecordFault where
  kind : RecordKind
  violations : List Violation
  deriving DecidableEq, Repr

def RecordFault.message (f : RecordFault) : String :=
  let count := f.violations.length
  toString count ++ (if count = 1 then " validation error for " else " validation errors for ") ++
    f.kind.label

end Handover
