import EventFlow.Number.Binary64
import EventFlow.Text.Blank
import EventFlow.Text.Digit

/-!
Reading numbers from text. After stripping, a number is one of the four words for NaN and the
infinities, or an optional sign, digits with an optional point among or beside them, and an optional
exponent. The digits may be those of any script.
-/

namespace EventFlow.Number

/-- A sign at the front, and what follows it. -/
def takeSign : List Char → Bool × List Char
  | '+' :: rest => (false, rest)
  | '-' :: rest => (true, rest)
  | cs => (false, cs)

/-- The exponent that a text consists of; an empty text is the exponent zero. -/
def exponent? : List Char → Option Int
  | [] => some 0
  | c :: rest =>
    if c = 'e' || c = 'E' then
      let (negative, digits) := takeSign rest
      match Text.takeDigits digits with
      | ([], _) => none
      | (ds, []) =>
        let n : Int := Text.ofDigits ds
        some (if negative then -n else n)
      | (_, _ :: _) => none
    else none

/-- The digits before and after the decimal point, and what follows them. -/
def takeMantissa (cs : List Char) : List Nat × List Nat × List Char :=
  let (whole, rest) := Text.takeDigits cs
  match rest with
  | '.' :: rest => let (places, rest) := Text.takeDigits rest; (whole, places, rest)
  | _ => (whole, [], rest)

/-- The number that an unsigned numeral denotes, as its magnitude. -/
def unsigned? (cs : List Char) : Option Nat :=
  let (whole, places, rest) := takeMantissa cs
  if whole.isEmpty && places.isEmpty then none
  else (exponent? rest).map fun e =>
    nearestDecimal (Text.ofDigits (whole ++ places)) (e - places.length)

/-- The words for the numbers that have no digits. -/
def special? (s : String) : Option Float :=
  if s = "NaN" then some notANumber
  else if s = "Infinity" || s = "+Infinity" then some (ofMagnitude false infinite)
  else if s = "-Infinity" then some (ofMagnitude true infinite)
  else none

/-- The number written by a text, surrounded by any blanks. -/
def read? (cs : List Char) : Option Float :=
  let cs := Text.strip cs
  match special? (String.ofList cs) with
  | some x => some x
  | none =>
    let (negative, digits) := takeSign cs
    (unsigned? digits).map (ofMagnitude negative)

end EventFlow.Number
