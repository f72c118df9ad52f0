import EventFlow.Text.Digit

/-!
JSON values. Integers and floats are kept apart, and the members of an object keep their order.
-/

namespace EventFlow

inductive Json where
  | null
  | bool (b : Bool)
  | int (n : Int)
  | float (x : Float)
  | text (s : String)
  | array (items : List Json)
  | object (members : List (String × Json))
  deriving Repr, Inhabited

namespace Json

/-- Members with a value set: a known key keeps its place, a new one comes last. -/
def put (members : List (String × Json)) (key : String) (value : Json) : List (String × Json) :=
  match members with
  | [] => [(key, value)]
  | (k, v) :: rest => if k = key then (k, value) :: rest else (k, v) :: put rest key value

/-- The value of a member of an object. -/
def get? (json : Json) (key : String) : Option Json :=
  match json with
  | object members => members.lookup key
  | _ => none

mutual

/-- The keys and the values without parts inside a value, in order. -/
def leaves : Json → List Json
  | array items => itemLeaves items
  | object members => memberLeaves members
  | null => [null]
  | bool b => [bool b]
  | int n => [int n]
  | float x => [float x]
  | text s => [text s]

def itemLeaves : List Json → List Json
  | [] => []
  | x :: rest => leaves x ++ itemLeaves rest

def memberLeaves : List (String × Json) → List Json
  | [] => []
  | (key, x) :: rest => text key :: leaves x ++ memberLeaves rest

end

/-- Whether a value without parts is no integer that is too long. -/
def leafBrief : Json → Bool
  | int n => decide (Brief n)
  | _ => true

/-- Whether no integer inside a value is too long. -/
def brief (j : Json) : Bool :=
  j.leaves.all leafBrief

end Json

end EventFlow
