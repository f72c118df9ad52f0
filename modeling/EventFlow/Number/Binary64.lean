/-!
Floats as exact numbers. A finite float is a significand times a power of two (`decode`), and
`nearest` is the float nearest to a fraction, a tie going to the even significand. Floats of one
sign are ordered like their magnitude bits, so a magnitude is a natural number here.
-/

namespace EventFlow.Number

/-- The weight of the sign bit. -/
def signUnit : Nat := 0x8000000000000000

/-- The weight of the lowest exponent bit, above the bits of the fraction. -/
def fractionUnit : Nat := 0x10000000000000

/-- The bits of a float without its sign. -/
def magnitude (x : Float) : Nat :=
  x.toBits.toNat % signUnit

def isNegative (x : Float) : Bool :=
  signUnit ≤ x.toBits.toNat

/-- The magnitude of infinity; all finite magnitudes are smaller and those of NaN larger. -/
def infinite : Nat := 0x7ff * fractionUnit

def isFinite (x : Float) : Bool :=
  magnitude x < infinite

def ofMagnitude (negative : Bool) (bits : Nat) : Float :=
  Float.ofBits (UInt64.ofNat (if negative then bits + signUnit else bits))

def notANumber : Float :=
  ofMagnitude false 0x7ff8000000000000

/-- The number `significand · 2 ^ exponent`. -/
structure Scaled where
  significand : Nat
  exponent : Int
  deriving DecidableEq, Repr

/-- The number that a finite magnitude stands for. -/
def decode (bits : Nat) : Scaled :=
  if bits < fractionUnit then ⟨bits, -1074⟩
  else ⟨bits % fractionUnit + fractionUnit, (bits / fractionUnit : Nat) - 1075⟩

/-- A scaled number as a fraction. -/
def Scaled.fraction (s : Scaled) : Nat × Nat :=
  match s.exponent with
  | .ofNat e => (s.significand * Nat.pow 2 e, 1)
  | .negSucc e => (s.significand, Nat.pow 2 (e + 1))

/-- The quotient rounded to the nearest natural number, a tie to the even one. -/
def roundHalfEven (num den : Nat) : Nat :=
  let q := num / den
  let r := num % den
  if den < 2 * r || (2 * r == den && q % 2 == 1) then q + 1 else q

/-- The fraction `num / den` divided by `2 ^ e`. -/
def unscale (num den : Nat) : Int → Nat × Nat
  | .ofNat e => (num, den * Nat.pow 2 e)
  | .negSucc e => (num * Nat.pow 2 (e + 1), den)

/-- The greatest `e` with `2 ^ e ≤ num / den`, for positive `num` and `den`. -/
def log2Floor (num den : Nat) : Int :=
  let guess : Int := num.log2 - den.log2
  let (n, d) := unscale num den guess
  if d ≤ n then guess else guess - 1

/-- The magnitude nearest to a fraction; what is too large for a finite float gives infinity. -/
def nearest (num den : Nat) : Nat :=
  if num = 0 then 0
  else
    let e := max (log2Floor num den - 52) (-1074)
    let (n, d) := unscale num den e
    min infinite ((e + 1074).toNat * fractionUnit + roundHalfEven n d)

/-- The magnitude nearest to `n · 10 ^ k`. The two bounds only spare the work on numbers that are
beyond the range in any case. -/
def nearestDecimal (n : Nat) (k : Int) : Nat :=
  if n = 0 then 0
  else
    match k with
    | .ofNat k => if 400 < k then infinite else nearest (n * Nat.pow 10 k) 1
    | .negSucc k => if n.log2 + 1200 < 3 * (k + 1) then 0 else nearest n (Nat.pow 10 (k + 1))

/-- The float nearest to an integer, infinite if the integer is too large. -/
def ofInt (n : Int) : Float :=
  ofMagnitude (decide (n < 0)) (nearest n.natAbs 1)

/-- A finite float as a signed fraction. -/
def fraction (x : Float) : Int × Nat :=
  let f := (decode (magnitude x)).fraction
  (if isNegative x then -(f.1 : Int) else f.1, f.2)

/-- The greatest integer that is not above a finite float. -/
def floor (x : Float) : Int :=
  (fraction x).1.fdiv (fraction x).2

/-- The least integer that is not below a finite float. -/
def ceil (x : Float) : Int :=
  -((-(fraction x).1).fdiv (fraction x).2)

/-- The integer part of a finite float. -/
def truncate (x : Float) : Int :=
  (fraction x).1.tdiv (fraction x).2

/-- Whether a float is exactly the given integer. -/
def equalsInt (x : Float) (n : Int) : Bool :=
  isFinite x && (fraction x).1 == n * (fraction x).2

end EventFlow.Number
