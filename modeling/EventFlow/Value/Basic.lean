import EventFlow.Value.Vector

/-!
The values that travel along a flow, their kinds, and the equality that the program's own comparison
uses: booleans count as zero and one, integers and floats compare exactly.
-/

namespace EventFlow

inductive Value where
  | absent
  | bool (b : Bool)
  | int (n : Int)
  | float (x : Scalar)
  | text (s : String)
  | vec2 (v : Vec2)
  | vec3 (v : Vec3)
  deriving DecidableEq, Repr, Inhabited

inductive Kind where
  | absent
  | boolean
  | number
  | text
  | vec2
  | vec3
  deriving DecidableEq, Repr

def Kind.name : Kind → String
  | absent => "null"
  | boolean => "boolean"
  | number => "number"
  | text => "text"
  | vec2 => "vec2"
  | vec3 => "vec3"

namespace Value

def kind : Value → Kind
  | absent => .absent
  | bool _ => .boolean
  | int _ => .number
  | float _ => .number
  | text _ => .text
  | vec2 _ => .vec2
  | vec3 _ => .vec3

def isNumber (v : Value) : Bool :=
  v.kind = .number

/-- A boolean or integer as an integer. -/
def integer? : Value → Option Int
  | bool b => some (if b then 1 else 0)
  | int n => some n
  | _ => none

/-- Equality as the operators == and != see it. -/
def same : Value → Value → Bool
  | absent, absent => true
  | text s, text t => s = t
  | vec2 v, vec2 w => v.same w
  | vec3 v, vec3 w => v.same w
  | float x, float y => x == y
  | float x, w => w.integer?.any (Number.equalsInt x.toFloat)
  | v, float y => v.integer?.any (Number.equalsInt y.toFloat)
  | v, w =>
    match v.integer?, w.integer? with
    | some m, some n => m = n
    | _, _ => false

end Value

end EventFlow
