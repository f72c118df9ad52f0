import EventFlow.Json.Basic

/-!
Checking data against a schema. A check gives a value or a list of issues; `Check.both` goes through
both of its parts, so all issues of a document are found, in the order of its fields.
-/

namespace EventFlow.Schema

/-- One step into a document. -/
inductive Key where
  | field (name : String)
  | item (index : Nat)
  deriving DecidableEq, Repr

inductive Problem where
  | jsonInvalid
  | missing
  | modelType
  | attributesType
  | listType
  | dictType
  | stringType
  | stringTooShort
  | stringUnicode
  | intType
  | intParsing
  | intParsingSize
  | intFromFloat
  | finiteNumber
  | greaterThanEqual
  | boolType
  | boolParsing
  | floatType
  deriving DecidableEq, Repr

/-- The word for a problem in reports. -/
def Problem.word : Problem → String
  | jsonInvalid => "json_invalid"
  | missing => "missing"
  | modelType => "model_type"
  | attributesType => "model_attributes_type"
  | listType => "list_type"
  | dictType => "dict_type"
  | stringType => "string_type"
  | stringTooShort => "string_too_short"
  | stringUnicode => "string_unicode"
  | intType => "int_type"
  | intParsing => "int_parsing"
  | intParsingSize => "int_parsing_size"
  | intFromFloat => "int_from_float"
  | finiteNumber => "finite_number"
  | greaterThanEqual => "greater_than_equal"
  | boolType => "bool_type"
  | boolParsing => "bool_parsing"
  | floatType => "float_type"

/-- A problem in a sentence. -/
def Problem.sentence : Problem → String
  | jsonInvalid => "JSON decode error"
  | missing => "Field required"
  | modelType => "Input should be a valid dictionary or object"
  | attributesType => "Input should be a valid dictionary or object to extract fields from"
  | listType => "Input should be a valid list"
  | dictType => "Input should be a valid dictionary"
  | stringType => "Input should be a valid string"
  | stringTooShort => "String should have at least 1 character"
  | stringUnicode => "Input should be a valid string, unable to parse raw data as a unicode string"
  | intType => "Input should be a valid integer"
  | intParsing => "Input should be a valid integer, unable to parse string as an integer"
  | intParsingSize => "Unable to parse input string as an integer, exceeded maximum size"
  | intFromFloat => "Input should be a valid integer, got a number with a fractional part"
  | finiteNumber => "Input should be a finite number"
  | greaterThanEqual => "Input should be greater than or equal to 0"
  | boolType => "Input should be a valid boolean"
  | boolParsing => "Input should be a valid boolean, unable to interpret input"
  | floatType => "Input should be a valid number"

/-- The bound that a problem is about, under its name. -/
def Problem.bound? : Problem → Option (String × Int)
  | stringTooShort => some ("min_length", 1)
  | greaterThanEqual => some ("ge", 0)
  | _ => none

/-- A problem, where it is, and the data that has it. -/
structure Issue where
  location : List Key
  problem : Problem
  input : Json
  deriving Repr

abbrev Check := Except (List Issue)

namespace Check

/-- A check of some data that fails where it is made. -/
def fail {α : Type} (problem : Problem) (input : Json) : Check α := .error [⟨[], problem, input⟩]

/-- A check with its issues located one step deeper. -/
def under {α : Type} (key : Key) (check : Check α) : Check α :=
  check.mapError fun issues =>
    issues.map fun issue => { issue with location := key :: issue.location }

/-- Both results, or the issues of both. -/
def both {α β : Type} (a : Check α) (b : Check β) : Check (α × β) :=
  match a, b with
  | .ok x, .ok y => .ok (x, y)
  | .ok _, .error issues => .error issues
  | .error issues, .ok _ => .error issues
  | .error issues, .error more => .error (issues ++ more)

/-- All results, or the issues of all. -/
def all {α β : Type} (check : α → Check β) : (index : Nat) → List α → Check (List β)
  | _, [] => .ok []
  | index, x :: rest =>
    (both (under (.item index) (check x)) (all check (index + 1) rest)).map fun p => p.1 :: p.2

/-- All results under their keys, or the issues of all. -/
def entries {α β : Type} (check : α → Check β) : List (String × α) → Check (List (String × β))
  | [] => .ok []
  | (key, x) :: rest =>
    (both (under (.field key) (check x)) (entries check rest)).map fun p => (key, p.1) :: p.2

end Check

end EventFlow.Schema
