import EventFlow.Text.DigitTable

/-!
Decimal digits of every script, and the decimal numerals of natural numbers and integers.
-/

namespace EventFlow.Text

/-- The value of a decimal digit of any script. -/
def digitValue? (c : Char) : Option Nat :=
  let n := c.toNat
  if 0x30 ≤ n && n ≤ 0x39 then some (n - 0x30)
  else if n < 0x80 then none
  else (zeroDigits.find? (fun first => first ≤ n && n < first + 10)).map (n - ·)

/-- The longest run of digits at the front, by value, and what follows it. -/
def takeDigits : List Char → List Nat × List Char
  | [] => ([], [])
  | c :: rest =>
    match digitValue? c with
    | some d => let (ds, after) := takeDigits rest; (d :: ds, after)
    | none => ([], c :: rest)

/-- The number that decimal digits denote, the most significant one first. -/
def ofDigits (digits : List Nat) : Nat :=
  digits.foldl (fun n d => 10 * n + d) 0

/-- The decimal numeral of an integer of any size. -/
def decimal : Int → String
  | .ofNat n => toString n
  | .negSucc n => "-" ++ toString (n + 1)

/-- The digits that a numeral may have where the host reads or writes an integer. -/
def digitLimit : Nat := 4300

/-- The least number that has more digits. It is not meant to be unfolded: proofs go by its
digits. -/
@[irreducible]
def digitBound : Nat := Nat.pow 10 digitLimit

end EventFlow.Text

namespace EventFlow

/-- An integer whose numeral has no more digits than the limit. -/
def Brief (n : Int) : Prop :=
  n.natAbs < Text.digitBound

instance (n : Int) : Decidable (Brief n) := inferInstanceAs (Decidable (_ < _))

end EventFlow
