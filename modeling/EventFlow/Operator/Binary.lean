import EventFlow.Operator.Failure

/-!
Operators of two operands. Equality is defined on all values; any other operator returns its other
operand when one is absent, and else is looked up by its name in the table for the operands' kinds.
-/

namespace EventFlow.Operator

/-- Operators on two numbers. -/
inductive NumberOp where
  | add | subtract | multiply | divide | modulo | power
  | greater | less | atLeast | atMost
  | max | min | log | atan2 | hypot
  deriving DecidableEq, Repr

def NumberOp.names : List (String × NumberOp) :=
  [("+", add), ("-", subtract), ("*", multiply), ("x", multiply), ("/", divide), ("%", modulo),
    ("^", power), (">", greater), ("<", less), (">=", atLeast), ("<=", atMost), ("max", max),
    ("min", min), ("log", log), ("atan2", atan2), ("hypot", hypot)]

def divide (a b : Scalar) : Result Scalar :=
  if b == 0 then .error .divisionByZero else .ok (a / b)

def modulo (a b : Scalar) : Result Scalar :=
  if b == 0 then .error .moduloByZero else onFloats Number.remainder a b

def NumberOp.apply (op : NumberOp) (a b : Scalar) : Result Value :=
  match op with
  | add => .ok (.float (a + b))
  | subtract => .ok (.float (a - b))
  | multiply => .ok (.float (a * b))
  | divide => (Operator.divide a b).map .float
  | modulo => (Operator.modulo a b).map .float
  | power => (onFloats Number.power a b).map .float
  | greater => .ok (.bool (b < a))
  | less => .ok (.bool (a < b))
  | atLeast => .ok (.bool (b ≤ a))
  | atMost => .ok (.bool (a ≤ b))
  | max => .ok (.float (if a < b then b else a))
  | min => .ok (.float (if b < a then b else a))
  | log => (onFloats Number.logBase a b).map .float
  | atan2 => .ok (.float (a.toFloat.atan2 b.toFloat))
  | hypot => .ok (.float (Number.hypotenuse a.toFloat b.toFloat))

/-- Operators on two booleans. -/
inductive BooleanOp where
  | and | or | xor
  deriving DecidableEq, Repr

def BooleanOp.names : List (String × BooleanOp) :=
  [("and", and), ("&&", and), ("or", or), ("||", or), ("xor", xor)]

def BooleanOp.apply (op : BooleanOp) (a b : Bool) : Bool :=
  match op with
  | and => a && b
  | or => a || b
  | xor => a != b

/-- Operators on two texts. -/
inductive TextOp where
  | append | contains | startsWith | endsWith | indexOf | lastIndexOf
  deriving DecidableEq, Repr

def TextOp.names : List (String × TextOp) :=
  [("+", append), ("append", append), ("contains", contains), ("startswith", startsWith),
    ("endswith", endsWith), ("indexof", indexOf), ("lastindexof", lastIndexOf)]

/-- A position as a number, minus one for none. -/
def position (found : Option Nat) : Value :=
  match found with
  | some i => .float (Number.ofInt i)
  | none => .float (-1)

def TextOp.apply (op : TextOp) (a b : String) : Value :=
  match op with
  | append => .text (a ++ b)
  | contains => .bool (Text.indexOf? b.toList a.toList).isSome
  | startsWith => .bool (b.toList.isPrefixOf a.toList)
  | endsWith => .bool (b.toList.isSuffixOf a.toList)
  | indexOf => position (Text.indexOf? b.toList a.toList)
  | lastIndexOf => position (Text.lastIndexOf? b.toList a.toList)

/-- A number, an integer as a float. -/
def number? : Value → Option (Result Scalar)
  | .int n => some ((arithmetic (Number.ofInt? n)).map .ofFloat)
  | .float x => some (.ok x)
  | _ => none

/-- One over a number. -/
def inverse (v : Value) (b : Result Scalar) : Result Scalar := do
  if v.same (.int 0) then .error .divisionByZero
  else .ok (1 / (← b))

def isTimes (op : String) : Bool :=
  op = "*" || op = "x"

/-- Operators on values of which at least one is a vector. -/
def vector (a b : Value) (op : String) : Result Value :=
  let none := Except.error (Failure.unsupported op [a.kind, b.kind])
  match a, b with
  | .vec2 v, .vec2 w =>
    if op = "+" then .ok (.vec2 (v.add w))
    else if op = "-" then .ok (.vec2 (v.sub w))
    else if op = "@" then .ok (.float (v.dot w))
    else none
  | .vec3 v, .vec3 w =>
    if op = "+" then .ok (.vec3 (v.add w))
    else if op = "-" then .ok (.vec3 (v.sub w))
    else if op = "@" then .ok (.float (v.dot w))
    else if op = "#" then .ok (.vec3 (v.cross w))
    else none
  | .vec2 v, w =>
    match number? w with
    | some x =>
      if isTimes op then x.map fun x => .vec2 (v.scale x)
      else if op = "/" then (inverse w x).map fun x => .vec2 (v.scale x)
      else none
    | Option.none => none
  | .vec3 v, w =>
    match number? w with
    | some x =>
      if isTimes op then x.map fun x => .vec3 (v.scale x)
      else if op = "/" then (inverse w x).map fun x => .vec3 (v.scale x)
      else none
    | Option.none => none
  | v, .vec2 w =>
    match number? v with
    | some x => if isTimes op then x.map fun x => .vec2 (w.scale x) else none
    | Option.none => none
  | v, .vec3 w =>
    match number? v with
    | some x => if isTimes op then x.map fun x => .vec3 (w.scale x) else none
    | Option.none => none
  | _, _ => none

/-- Operators on values of which none is a vector. -/
def scalar (a b : Value) (op : String) : Result Value :=
  let none := Except.error (Failure.unsupported op [a.kind, b.kind])
  match number? a, number? b, NumberOp.names.lookup op with
  | some x, some y, some f => do f.apply (← x) (← y)
  | _, _, _ =>
    match a, b, BooleanOp.names.lookup op with
    | .bool x, .bool y, some f => .ok (.bool (f.apply x y))
    | _, _, _ =>
      if a.kind = .text || b.kind = .text then
        match TextOp.names.lookup op with
        | some f => do return f.apply (← textOf a) (← textOf b)
        | Option.none => none
      else none

def isVector (v : Value) : Bool :=
  v.kind = .vec2 || v.kind = .vec3

/-- The operator named `op` applied to two operands. -/
def binary (a b : Value) (op : String) : Result Value :=
  if op = "==" then .ok (.bool (a.same b))
  else if op = "!=" then .ok (.bool !(a.same b))
  else if a = .absent then .ok b
  else if b = .absent then .ok a
  else if isVector a || isVector b then vector a b op
  else scalar a b op

end EventFlow.Operator
