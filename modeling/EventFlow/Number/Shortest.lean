import EventFlow.Number.Binary64

/-!
The shortest decimal that reads back as a given float. `shortest` tries one significant digit, then
two, up to seventeen, and takes the first grid of decimals with a neighbour of the float that reads
back; of two such neighbours it takes the nearer one, a tie going to the even one.
-/

namespace EventFlow.Number

/-- The number `digits · 10 ^ exponent`. -/
structure Decimal where
  digits : Nat
  exponent : Int
  deriving DecidableEq, Repr

def Decimal.magnitude (d : Decimal) : Nat :=
  nearestDecimal d.digits d.exponent

/-- The fraction `num / den` divided by `10 ^ k`. -/
def onGrid (num den : Nat) : Int → Nat × Nat
  | .ofNat k => (num, den * Nat.pow 10 k)
  | .negSucc k => (num * Nat.pow 10 (k + 1), den)

/-- The number of digits before the decimal point of a fraction, negative if zeros follow it: the
`p` with `10 ^ (p - 1) ≤ num / den < 10 ^ p`. -/
def decimalPoint (num den : Nat) : Int :=
  let guess := (log2Floor num den * 30103).fdiv 100000
  let (n, d) := onGrid num den guess
  if n < d then guess else if n < 10 * d then guess + 1 else guess + 2

/-- The neighbour of `num / den` with last digit at `10 ^ k` that reads back as `bits`. -/
def neighbour? (bits num den : Nat) (k : Int) : Option Decimal :=
  let (n, d) := onGrid num den k
  let low := n / d
  let below : Decimal := ⟨low, k⟩
  let above : Decimal := ⟨low + 1, k⟩
  let twice := 2 * (n % d)
  let nearBelow := twice < d || (twice == d && low % 2 == 0)
  if below.magnitude = bits then
    if above.magnitude = bits && !nearBelow then some above else some below
  else if above.magnitude = bits then some above
  else none

/-- The exact decimal value of a scaled number. -/
def Scaled.decimal (s : Scaled) : Decimal :=
  match s.exponent with
  | .ofNat e => ⟨s.significand * Nat.pow 2 e, 0⟩
  | .negSucc e => ⟨s.significand * Nat.pow 5 (e + 1), .negSucc e⟩

/-- The first neighbour that reads back, on grids of rising fineness; the exact value after that. -/
def firstNeighbour (bits num den : Nat) (exact : Decimal) (point : Int) :
    (tries : Nat) → (places : Nat) → Decimal
  | 0, _ => exact
  | tries + 1, places =>
    match neighbour? bits num den (point - places) with
    | some d => d
    | none => firstNeighbour bits num den exact point tries (places + 1)

/-- The shortest decimal that reads back as a positive finite magnitude. -/
def shortest (bits : Nat) : Decimal :=
  let s := decode bits
  let (num, den) := s.fraction
  firstNeighbour bits num den s.decimal (decimalPoint num den) 17 1

end EventFlow.Number
