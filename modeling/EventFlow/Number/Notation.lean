import EventFlow.Number.Shortest
import EventFlow.Text.Digit

/-!
How numbers are written: with the fewest digits that read back, positionally from 0.0001 up to 17
digits before the point and with an exponent beyond.
-/

namespace EventFlow.Number

/-- The digits of a number without its trailing zeros, and how many zeros there were. -/
def trimZeros (digits : List Char) : List Char × Nat :=
  let zeros := digits.reverse.takeWhile (· == '0')
  (digits.take (digits.length - zeros.length), zeros.length)

/-- An exponent with its sign and at least two digits. -/
def exponentText (e : Int) : List Char :=
  let digits := Nat.toDigits 10 e.natAbs
  (if e < 0 then '-' else '+') :: (if digits.length < 2 then '0' :: digits else digits)

/-- Significant digits with the decimal point after the first `point` of them. -/
def decimalText (digits : List Char) (point : Int) : List Char :=
  if -4 < point && point ≤ 16 then
    if point ≤ 0 then '0' :: '.' :: List.replicate (-point).toNat '0' ++ digits
    else
      let whole := point.toNat
      if digits.length ≤ whole then
        digits ++ List.replicate (whole - digits.length) '0' ++ ['.', '0']
      else digits.take whole ++ '.' :: digits.drop whole
  else
    let mantissa :=
      match digits with
      | first :: second :: rest => first :: '.' :: second :: rest
      | short => short
    mantissa ++ 'e' :: exponentText (point - 1)

def Decimal.chars (d : Decimal) : List Char :=
  let all := Nat.toDigits 10 d.digits
  decimalText (trimZeros all).1 (all.length + d.exponent)

def magnitudeChars (bits : Nat) : List Char :=
  if bits = 0 then ['0', '.', '0'] else (shortest bits).chars

/-- The characters of a float's text. -/
def chars (x : Float) : List Char :=
  if infinite < magnitude x then "NaN".toList
  else
    let body := if magnitude x = infinite then "Infinity".toList else magnitudeChars (magnitude x)
    if isNegative x then '-' :: body else body

/-- The text of a float. -/
def text (x : Float) : String :=
  String.ofList (chars x)

end EventFlow.Number
