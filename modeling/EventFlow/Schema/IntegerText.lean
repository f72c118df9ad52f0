import EventFlow.Json.Reader
import EventFlow.Schema.Issue
import EventFlow.Text.Blank
import EventFlow.Text.Digit

/-!
Integers that are given as text. The plain form is that of an integer in JSON. A text in another
form is cleaned first: blanks around it, a plus sign, zeros at its beginning and at the end of its
fraction, and underscores are taken out.
-/

namespace EventFlow.Schema

/-- A text without a sign of its own. -/
def takeMinus : List Char → Bool × List Char
  | '-' :: rest => (true, rest)
  | cs => (false, cs)

/-- The digits at the front of a text, with its sign, and what follows them. They do not begin with
a zero, unless there are no others. -/
def plainDigits? (cs : List Char) : Option (Bool × List Nat × List Char) :=
  let (negative, rest) := takeMinus cs
  match Json.takeDecimals rest with
  | ([], _) => none
  | (0 :: _ :: _, _) => none
  | (digits, rest) => some (negative, digits, rest)

/-- Whether the digits at the front of a text are too many. -/
def isTooLong (cs : List Char) : Bool :=
  match plainDigits? cs with
  | some (_, digits, _) => Text.digitLimit < digits.length
  | none => false

/-- The integer that a text in plain form writes. -/
def plain? (cs : List Char) : Option Int :=
  if isTooLong cs then none
  else
    match plainDigits? cs with
    | some (negative, digits, []) =>
      let n : Int := Text.ofDigits digits
      some (if negative then -n else n)
    | _ => none

/-- The rest of a text after the zero or underscore `last`, which stays if no digit follows. -/
def dropZerosAfter (last : Char) : List Char → Option (List Char)
  | [] => some [last]
  | c :: rest =>
    if c = '0' || c = '_' then dropZerosAfter c rest
    else if ('1' ≤ c && c ≤ '9') || c = '-' then some (c :: rest)
    else if c = '.' then some (last :: c :: rest)
    else none

/-- A text without the zeros at its beginning and the underscores between them. -/
def dropZeros? : List Char → Option (List Char)
  | [] => none
  | c :: rest =>
    if c = '0' then dropZerosAfter c rest
    else if '1' ≤ c && c ≤ '9' then some (c :: rest)
    else none

/-- A text without a fraction of zeros. -/
def dropFraction (cs : List Char) : List Char :=
  match (cs.dropWhile (· != '.')).drop 1 with
  | [] => cs
  | places => if places.all (· == '0') then cs.takeWhile (· != '.') else cs

def hasDoubleUnderscore : List Char → Bool
  | '_' :: '_' :: _ => true
  | _ :: rest => hasDoubleUnderscore rest
  | [] => false

/-- A text without its underscores, if they stand one by one between other characters. -/
def dropUnderscores (cs : List Char) : List Char :=
  if cs.head? = some '_' || cs.getLast? = some '_' || hasDoubleUnderscore cs then cs
  else cs.filter (· != '_')

/-- A text after cleaning. -/
def clean? (cs : List Char) : Option (List Char) :=
  let unsigned :=
    match Text.trim cs with
    | '+' :: '-' :: _ => none
    | '+' :: rest => some rest
    | cs => some cs
  unsigned.bind fun cs =>
    let (negative, rest) := takeMinus cs
    (dropZeros? rest).map fun cs =>
      let cs := dropUnderscores (dropFraction cs)
      if negative then '-' :: cs else cs

/-- The integer that a text stands for. -/
def integerText (s : String) : Check Int :=
  let cs := s.toList
  if isTooLong cs then .fail .intParsingSize (.text s)
  else
    match (plain? cs).or ((clean? cs).bind plain?) with
    | some n => .ok n
    | none => .fail .intParsing (.text s)

end EventFlow.Schema
