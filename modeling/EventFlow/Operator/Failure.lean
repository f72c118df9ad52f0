import EventFlow.Value.Wire

/-!
What can go wrong when an operator is applied.
-/

namespace EventFlow.Operator

inductive Failure where
  | divisionByZero
  | moduloByZero
  | unsupported (operator : String) (operands : List Kind)
  | arithmetic (error : ArithmeticError)
  | wording (error : TextError)
  deriving DecidableEq, Repr

def Failure.message : Failure → String
  | divisionByZero => "Division by zero"
  | moduloByZero => "Modulo by zero"
  | unsupported operator operands =>
    "Unsupported operation '" ++ operator ++ "' on " ++
      String.intercalate ", " (operands.map Kind.name)
  | arithmetic error => error.message
  | wording error => error.message

/-- The outcome of an operator. -/
abbrev Result := Except Failure

def arithmetic {α : Type} (r : Except ArithmeticError α) : Result α :=
  r.mapError .arithmetic

/-- An operand as text. -/
def textOf (v : Value) : Result String :=
  v.asText.mapError .wording

/-- A function on floats applied to a number. -/
def onFloat (f : Float → Except ArithmeticError Float) (x : Scalar) : Result Scalar :=
  (arithmetic (f x.toFloat)).map x.after

/-- A function on two floats applied to numbers. -/
def onFloats (f : Float → Float → Except ArithmeticError Float) (x y : Scalar) : Result Scalar :=
  (arithmetic (f x.toFloat y.toFloat)).map (Scalar.afterBoth x y)

end EventFlow.Operator
