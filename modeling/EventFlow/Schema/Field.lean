import EventFlow.Number.Binary64
import EventFlow.Schema.IntegerText

/-!
The kinds of fields. Texts are taken as they are; integers also come as floats without a fraction,
as booleans and as text; booleans also come as the numbers zero and one and as the usual words.
-/

namespace EventFlow.Schema

def string : Json → Check String
  | .text s => .ok s
  | json => .fail .stringType json

/-- A text without half a pair, which has to be so wherever a check looks into it. -/
def whole (s : String) : Check String :=
  if s.toList.any fun c => (Text.halfPair? c).isSome then .fail .stringUnicode (.text s) else .ok s

def nonEmptyString : Json → Check String
  | .text s => do
    let s ← whole s
    if s = "" then .fail .stringTooShort (.text s) else .ok s
  | json => .fail .stringType json

/-- The integers that a float may stand for are closer to zero. -/
def wholeLimit : Nat := 0x8000000000000000

/-- The integer that a float without a fraction is. -/
def integerFloat (x : Float) : Check Int :=
  if !Number.isFinite x then .fail .finiteNumber (.float x)
  else
    let n := Number.truncate x
    if !Number.equalsInt x n then .fail .intFromFloat (.float x)
    else if n.natAbs < wholeLimit then .ok n
    else .fail .intParsingSize (.float x)

def integer : Json → Check Int
  | .int n => .ok n
  | .bool b => .ok (if b then 1 else 0)
  | .float x => integerFloat x
  | .text s => do integerText (← whole s)
  | json => .fail .intType json

/-- An integer that is not negative. -/
def natural (json : Json) : Check Int := do
  let n ← integer json
  if n < 0 then .fail .greaterThanEqual json else .ok n

/-- A value, or nothing for null. -/
def nullable {α : Type} (check : Json → Check α) : Json → Check (Option α)
  | .null => .ok none
  | json => (check json).map some

def list {α : Type} (check : Json → Check α) : Json → Check (List α)
  | .array items => Check.all check 0 items
  | json => .fail .listType json

/-- The members of an object, whatever their keys. -/
def dictionary {α : Type} (check : Json → Check α) : Json → Check (List (String × α))
  | .object members => Check.entries check members
  | json => .fail .dictType json

/-- The value of a field of an object that must be there. -/
def required {α : Type} (object : Json) (key : String) (check : Json → Check α) : Check α :=
  Check.under (.field key) (match object.get? key with
    | some json => check json
    | none => .fail .missing object)

/-- The value of a field, or a default. -/
def optional {α : Type} (key : String) (check : Json → Check α) (default : α)
    (value : Option Json) : Check α :=
  match value with
  | some json => Check.under (.field key) (check json)
  | none => .ok default

def boolWord? (s : String) : Option Bool :=
  let word := String.ofList (s.toList.map Char.toLower)
  if word ∈ ["0", "f", "n", "no", "off", "false"] then some false
  else if word ∈ ["1", "t", "y", "on", "yes", "true"] then some true
  else none

/-- The boolean that an integer stands for, which is given as `json`. -/
def boolInteger (n : Int) (json : Json) : Check Bool :=
  if n = 0 then .ok false
  else if n = 1 then .ok true
  else if n < -wholeLimit || wholeLimit ≤ n then .fail .boolType json
  else .fail .boolParsing json

def boolean : Json → Check Bool
  | .bool b => .ok b
  | .text s => do
    match boolWord? (← whole s) with
    | some b => .ok b
    | none => .fail .boolParsing (.text s)
  | .int n => boolInteger n (.int n)
  | .float x =>
    match integerFloat x with
    | .ok n => boolInteger n (.float x)
    | .error _ => .fail .boolType (.float x)
  | json => .fail .boolType json

end EventFlow.Schema
