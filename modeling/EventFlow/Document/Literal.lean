import EventFlow.Json.Basic
import EventFlow.Number.Notation
import EventFlow.Text.Quoted

/-!
The text that stands for a constant which a document gives as a list, an object or a number instead
of as text. The host makes it only of a value that has no integer of too many digits.
-/

namespace EventFlow.Json

/-- A float inside a list or object; the numbers without digits have words of their own there. -/
def nestedFloat (x : Float) : String :=
  if x.isNaN then "nan"
  else if x.isInf then (if Number.isNegative x then "-inf" else "inf")
  else Number.text x

mutual

/-- A value inside a list or object. -/
def nested : Json → String
  | null => "None"
  | bool b => if b then "True" else "False"
  | int n => Text.decimal n
  | float x => nestedFloat x
  | text s => Text.quoted s
  | array [] => "[]"
  | array (x :: xs) => "[" ++ nested x ++ nestedItems xs
  | object [] => "\x7b\x7d"
  | object ((key, x) :: rest) =>
    "\x7b" ++ Text.quoted key ++ ": " ++ nested x ++ nestedMembers rest

def nestedItems : List Json → String
  | [] => "]"
  | x :: xs => ", " ++ nested x ++ nestedItems xs

def nestedMembers : List (String × Json) → String
  | [] => "\x7d"
  | (key, x) :: rest => ", " ++ Text.quoted key ++ ": " ++ nested x ++ nestedMembers rest

end

/-- The text of a constant, unless it is absent. -/
def literal? : Json → Option String
  | null => none
  | bool b => some (if b then "true" else "false")
  | float x => some (Number.text x)
  | text s => some s
  | json => some (nested json)

end EventFlow.Json
