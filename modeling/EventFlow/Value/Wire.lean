import EventFlow.Number.Notation
import EventFlow.Number.Reading
import EventFlow.Text.Letter
import EventFlow.Text.Search
import EventFlow.Text.Wording
import EventFlow.Value.Basic

/-!
The text form of values, as flow files hold it. `Value.format` writes a value, unless it is an
integer of too many digits, and `autoCast` reads a text as the first of: absent, a vector of three,
a vector of two, a number, a boolean, a text.
-/

namespace EventFlow

def Vec2.text (v : Vec2) : String :=
  "(" ++ Number.text v.x.toFloat ++ ", " ++ Number.text v.y.toFloat ++ ")"

def Vec3.text (v : Vec3) : String :=
  "(" ++ Number.text v.x.toFloat ++ ", " ++ Number.text v.y.toFloat ++ ", " ++
    Number.text v.z.toFloat ++ ")"

namespace Value

/-- The text form of a value, whatever the size of its number. -/
def wire : Value → String
  | absent => "null"
  | bool b => if b then "true" else "false"
  | int n => Text.decimal n
  | float x => Number.text x.toFloat
  | text s => s
  | vec2 v => v.text
  | vec3 v => v.text

/-- Whether the host can write a value. -/
def isBrief : Value → Bool
  | int n => decide (Brief n)
  | _ => true

/-- The text form of a value as the host writes it. -/
def format (v : Value) : Worded String :=
  if v.isBrief then .ok v.wire else .error .tooManyDigits

/-- The text form of a value, where an absent one is the empty text. -/
def asText : Value → Worded String
  | absent => .ok ""
  | v => v.format

def trueWords : List String := ["yes", "true", "on", "enable", "open"]

def falseWords : List String := ["no", "false", "off", "disable", "close"]

/-- The boolean that a word stands for, in any case and surrounded by any blanks. -/
def boolean? (s : String) : Option Bool :=
  let word := String.ofList (Text.lower (Text.strip s.toList))
  if word ∈ trueWords then some true
  else if word ∈ falseWords then some false
  else none

def asBoolean : Value → Option Bool
  | bool b => some b
  | text s => boolean? s
  | _ => none

/-- The number that a value stands for. -/
def asNumber : Value → Except ArithmeticError (Option Scalar)
  | int n => (Number.ofInt? n).map fun x => some x
  | float x => .ok (some x)
  | text s => .ok ((Number.read? s.toList).map .ofFloat)
  | _ => .ok none

/-- The numbers in parentheses that a text consists of, if all parts are numbers. -/
def tuple? (s : String) : Option (List Float) :=
  match Text.strip s.toList with
  | '(' :: rest =>
    if rest.getLast? = some ')' then
      (Text.splitOnChar ',' rest.dropLast).mapM Number.read?
    else none
  | _ => none

def readVec2? (s : String) : Option Vec2 :=
  match tuple? s with
  | some [x, y] => some ⟨x, y⟩
  | _ => none

def readVec3? (s : String) : Option Vec3 :=
  match tuple? s with
  | some [x, y, z] => some ⟨x, y, z⟩
  | _ => none

def asVec2 : Value → Option Vec2
  | vec2 v => some v
  | text s => readVec2? s
  | _ => none

def asVec3 : Value → Option Vec3
  | vec3 v => some v
  | text s => readVec3? s
  | _ => none

/-- The value that a text stands for. -/
def autoCast (s : String) : Value :=
  if s = "null" then absent
  else
    match readVec3? s with
    | some v => vec3 v
    | none =>
      match readVec2? s with
      | some v => vec2 v
      | none =>
        match Number.read? s.toList with
        | some x => float x
        | none =>
          match boolean? s with
          | some b => bool b
          | none => text s

/-- A value as reports show it: vectors and the floats without digits become their text. -/
def report : Value → Value
  | float x => if Number.isFinite x.toFloat then float x else text (Number.text x.toFloat)
  | vec2 v => text v.text
  | vec3 v => text v.text
  | v => v

end Value

end EventFlow
