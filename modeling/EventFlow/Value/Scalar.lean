import EventFlow.Number.Elementary

/-!
The numbers that values hold: floats, where a NaN has a sign. Arithmetic hands on the first NaN
among its operands, and where it makes one of its own, that one is negative.
-/

namespace EventFlow

/-- A float, whose NaN is the positive one, or the negative NaN. -/
inductive Scalar where
  | ofFloat (x : Float)
  | negativeNaN
  deriving DecidableEq, Repr

namespace Scalar

instance : Coe Float Scalar := ⟨ofFloat⟩

instance (n : Nat) [OfNat Float n] : OfNat Scalar n := ⟨ofFloat (OfNat.ofNat n)⟩

def toFloat : Scalar → Float
  | ofFloat x => x
  | negativeNaN => Number.notANumber

def isNaN (a : Scalar) : Bool := a.toFloat.isNaN

def isNegative : Scalar → Bool
  | ofFloat x => Number.isNegative x
  | negativeNaN => true

instance : BEq Scalar := ⟨fun a b => a.toFloat == b.toFloat⟩

instance : LT Scalar := ⟨fun a b => a.toFloat < b.toFloat⟩

instance : LE Scalar := ⟨fun a b => a.toFloat ≤ b.toFloat⟩

instance (a b : Scalar) : Decidable (a < b) := inferInstanceAs (Decidable (a.toFloat < b.toFloat))

instance (a b : Scalar) : Decidable (a ≤ b) := inferInstanceAs (Decidable (a.toFloat ≤ b.toFloat))

/-- The result `z` of arithmetic on one operand. -/
def after (a : Scalar) (z : Float) : Scalar :=
  if z.isNaN then (if a.isNaN then a else negativeNaN) else z

/-- The result `z` of arithmetic on two operands. -/
def afterBoth (a b : Scalar) (z : Float) : Scalar :=
  if a.isNaN then a.after z else b.after z

instance : Add Scalar := ⟨fun a b => afterBoth a b (a.toFloat + b.toFloat)⟩

instance : Sub Scalar := ⟨fun a b => afterBoth a b (a.toFloat - b.toFloat)⟩

instance : Mul Scalar := ⟨fun a b => afterBoth a b (a.toFloat * b.toFloat)⟩

instance : Div Scalar := ⟨fun a b => afterBoth a b (a.toFloat / b.toFloat)⟩

/-- The number with the other sign. -/
def neg : Scalar → Scalar
  | ofFloat x => if x.isNaN then negativeNaN else ofFloat (-x)
  | negativeNaN => Number.notANumber

instance : Neg Scalar := ⟨neg⟩

def abs (a : Scalar) : Scalar := a.toFloat.abs

def sqrt (a : Scalar) : Scalar := a.after a.toFloat.sqrt

/-- Minus one, zero or one; a NaN counts as its sign says. -/
def sign (a : Scalar) : Scalar :=
  if a == 0 then 0 else if a.isNegative then -1 else 1

end Scalar

end EventFlow
