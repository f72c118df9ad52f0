import EventFlow.Operator.Failure

/-!
Operators of one operand, looked up by name in the table for the operand's kind. An absent operand
gives an absent result.
-/

namespace EventFlow.Operator

/-- Operators on one number. -/
inductive NumberFn where
  | negate | abs | sqrt | cbrt | exp | ln | lg | sin | cos | tan | asin | acos | atan
  | sinh | cosh | tanh | ceil | floor | round | rad | deg | sgn
  deriving DecidableEq, Repr

def NumberFn.names : List (String × NumberFn) :=
  [("-", negate), ("abs", abs), ("sqrt", sqrt), ("cbrt", cbrt), ("exp", exp), ("ln", ln),
    ("lg", lg), ("sin", sin), ("cos", cos), ("tan", tan), ("asin", asin), ("acos", acos),
    ("atan", atan), ("sinh", sinh), ("cosh", cosh), ("tanh", tanh), ("ceil", ceil),
    ("floor", floor), ("round", round), ("rad", rad), ("deg", deg), ("sgn", sgn)]

def NumberFn.apply (f : NumberFn) (x : Scalar) : Result Scalar :=
  match f with
  | negate => .ok (-x)
  | abs => .ok x.abs
  | sqrt => onFloat (Number.bounded Float.sqrt) x
  | cbrt => onFloat (fun x => .ok (Number.cubeRoot x)) x
  | exp => onFloat (Number.growing Float.exp) x
  | ln => onFloat (Number.logarithm Float.log) x
  | lg => onFloat (Number.logarithm Float.log10) x
  | sin => onFloat (Number.bounded Float.sin) x
  | cos => onFloat (Number.bounded Float.cos) x
  | tan => onFloat (Number.bounded Float.tan) x
  | asin => onFloat (Number.bounded Float.asin) x
  | acos => onFloat (Number.bounded Float.acos) x
  | atan => onFloat (Number.bounded Float.atan) x
  | sinh => onFloat (Number.growing Float.sinh) x
  | cosh => onFloat (Number.growing Float.cosh) x
  | tanh => onFloat (Number.bounded Float.tanh) x
  | ceil => onFloat (Number.viaInteger Number.ceil) x
  | floor => onFloat (Number.viaInteger Number.floor) x
  | round => onFloat (fun x => Number.viaInteger Number.floor (x + 0.5)) x
  | rad => onFloat (fun x => .ok (Number.radians x)) x
  | deg => onFloat (fun x => .ok (Number.degrees x)) x
  | sgn => .ok x.sign

/-- Operators on one text. -/
inductive TextFn where
  | length | lower | upper | isEmpty | strip
  deriving DecidableEq, Repr

def TextFn.names : List (String × TextFn) :=
  [("len", length), ("lower", lower), ("upper", upper), ("isempty", isEmpty), ("strip", strip)]

def TextFn.apply (f : TextFn) (s : String) : Value :=
  match f with
  | length => .float (Number.ofInt s.length)
  | lower => .text (Text.lowerText s)
  | upper => .text (Text.upperText s)
  | isEmpty => .bool (s.length = 0)
  | strip => .text (Text.stripText s)

/-- The operator named `op` applied to one operand. -/
def unary (a : Value) (op : String) : Result Value :=
  let none := Except.error (Failure.unsupported op [a.kind])
  match a with
  | .absent => .ok .absent
  | .vec2 v =>
    if op = "len" || op = "length" then .ok (.float v.length)
    else if op = "norm" || op = "normalize" then .ok (.vec2 v.normalize)
    else if op = "-" then .ok (.vec2 v.neg)
    else if op = "x" then .ok (.float v.x)
    else if op = "y" then .ok (.float v.y)
    else none
  | .vec3 v =>
    if op = "len" || op = "length" then .ok (.float v.length)
    else if op = "norm" || op = "normalize" then .ok (.vec3 v.normalize)
    else if op = "-" then .ok (.vec3 v.neg)
    else if op = "x" then .ok (.float v.x)
    else if op = "y" then .ok (.float v.y)
    else if op = "z" then .ok (.float v.z)
    else none
  | .bool b => if op = "!" || op = "not" then .ok (.bool !b) else none
  | .int n =>
    match NumberFn.names.lookup op with
    | some f => do return .float (← f.apply (← arithmetic (Number.ofInt? n)))
    | Option.none => none
  | .float x =>
    match NumberFn.names.lookup op with
    | some f => (f.apply x).map .float
    | Option.none => none
  | .text s =>
    match TextFn.names.lookup op with
    | some f => .ok (f.apply s)
    | Option.none => none

end EventFlow.Operator
