import EventFlow.Number.Binary64

/-!
Functions on floats that can fail. A function has no value outside its domain, and a finite
argument must not give an infinite result.
-/

namespace EventFlow

/-- Why a computation with numbers has no result. -/
inductive ArithmeticError where
  | domain
  | range
  | integerOfNaN
  | integerOfInfinity
  | zeroDivisor
  | integerTooLarge
  deriving DecidableEq, Repr

def ArithmeticError.message : ArithmeticError → String
  | domain => "math domain error"
  | range => "math range error"
  | integerOfNaN => "cannot convert float NaN to integer"
  | integerOfInfinity => "cannot convert float infinity to integer"
  | zeroDivisor => "float division by zero"
  | integerTooLarge => "int too large to convert to float"

namespace Number

/-- An integer as a float, rounded to nearest. -/
def ofInt? (n : Int) : Except ArithmeticError Float :=
  let x := ofInt n
  if isFinite x then .ok x else .error .integerTooLarge

/-- The result `y` of a function at `x`; `pole` is the failure that an infinite result means. -/
def checked (pole : ArithmeticError) (x y : Float) : Except ArithmeticError Float :=
  if y.isNaN && !x.isNaN then .error .domain
  else if y.isInf && isFinite x then .error pole
  else .ok y

/-- A function that is bounded near every point of its domain. -/
def bounded (f : Float → Float) (x : Float) : Except ArithmeticError Float :=
  checked .domain x (f x)

/-- A function that grows beyond every bound. -/
def growing (f : Float → Float) (x : Float) : Except ArithmeticError Float :=
  checked .range x (f x)

/-- A logarithm, defined above zero. -/
def logarithm (f : Float → Float) (x : Float) : Except ArithmeticError Float :=
  if x ≤ 0 then .error .domain else .ok (f x)

/-- The logarithm of `x` to the base `base`. -/
def logBase (x base : Float) : Except ArithmeticError Float := do
  let top ← logarithm Float.log x
  let bottom ← logarithm Float.log base
  if bottom == 0 then .error .zeroDivisor else .ok (top / bottom)

def power (x y : Float) : Except ArithmeticError Float :=
  let z := x.pow y
  if isFinite x && isFinite y then
    if z.isNaN then .error .domain
    else if z.isInf then .error (if x == 0 then .domain else .range)
    else .ok z
  else .ok z

/-- What is left of `x` after taking away a whole multiple of `y`, with the sign of `x`. -/
def remainder (x y : Float) : Except ArithmeticError Float :=
  if x.isNaN || y.isNaN then .ok (x + y)
  else if x.isInf || y == 0 then .error .domain
  else if y.isInf then .ok x
  else
    let (n, d) := (decode (magnitude x)).fraction
    let (m, e) := (decode (magnitude y)).fraction
    .ok (ofMagnitude (isNegative x) (nearest ((n * e) % (m * d)) (d * e)))

/-- The greatest number whose square is not above `n`. -/
def sqrtFloor (n : Nat) : Nat :=
  if h : n = 0 then 0
  else
    let half := 2 * sqrtFloor (n / 4)
    if (half + 1) * (half + 1) ≤ n then half + 1 else half
termination_by n
decreasing_by omega

/-- The magnitude of `m · 2 ^ e`. -/
def ofScaled (m : Nat) (e : Int) : Nat :=
  let (n, d) := Scaled.fraction ⟨m, e⟩
  nearest n d

/-- The square root of `n · 4 ^ e`, rounded to 53 bits and then to a float. -/
def sqrtScaled (n : Nat) (e : Int) : Nat :=
  let wide := n * Nat.pow 4 60
  let root := sqrtFloor wide
  let sticky := 2 * root + (if root * root = wide then 0 else 1)
  let drop := sticky.log2 - 52
  ofScaled (roundHalfEven sticky (Nat.pow 2 drop)) (drop + e - 61)

/-- The length of the hypotenuse over `x` and `y`. It is the rounded exact root, except that for
sides below 2^-1024 the ratios to the longer side are used. -/
def hypotenuse (x y : Float) : Float :=
  if x.isInf || y.isInf then ofMagnitude false infinite
  else if x.isNaN || y.isNaN then x + y
  else
    let a := magnitude x
    let b := magnitude y
    if a = 0 && b = 0 then 0
    else if max a b < Nat.pow 2 50 then
      let longer := ofMagnitude false (max a b)
      let u := x.abs / longer
      let v := y.abs / longer
      longer * (u * u + v * v).sqrt
    else
      let p := decode a
      let q := decode b
      let e := min p.exponent q.exponent
      let m := p.significand * Nat.pow 2 (p.exponent - e).toNat
      let n := q.significand * Nat.pow 2 (q.exponent - e).toNat
      ofMagnitude false (sqrtScaled (m * m + n * n) e)

/-- A rounding to integers, as a float; it loses the sign of a zero. -/
def viaInteger (f : Float → Int) (x : Float) : Except ArithmeticError Float :=
  if x.isNaN then .error .integerOfNaN
  else if x.isInf then .error .integerOfInfinity
  else .ok (ofInt (f x))

def copySign (x sign : Float) : Float :=
  ofMagnitude (isNegative sign) (magnitude x)

def cubeRoot (x : Float) : Float :=
  copySign (x.abs.pow (1 / 3)) x

/-- The ratio of the circumference to the diameter. -/
def pi : Float := 3.141592653589793

def radians (degrees : Float) : Float := degrees * (pi / 180)

def degrees (radians : Float) : Float := radians * (180 / pi)

end Number

end EventFlow
