import EventFlow.Json.Basic
import EventFlow.Number.Binary64
import EventFlow.Text.Digit
import EventFlow.Text.Unit

/-!
Reading JSON text. The grammar is the standard one with the three further numbers NaN, Infinity and
-Infinity; of members with one key the last one counts. How deep arrays and objects that hold
something may nest, how long numbers may be, and whether an escape may give half a pair, depends on
the rules.
-/

namespace EventFlow.Json

/-- Why a text gives no value. What goes beyond the limits is not read any further. -/
inductive ReadError where
  | malformed
  | excessive
  deriving DecidableEq, Repr

/-- What may be read. `strict` forbids half a pair, and limits the digits before a decimal point or
an exponent as those of an integer are. -/
structure Rules where
  depth : Nat
  strict : Bool
  deriving DecidableEq, Repr

def isSpace (c : Char) : Bool :=
  c = ' ' || c = '\t' || c = '\n' || c = '\r'

def skipSpace (cs : List Char) : List Char :=
  cs.dropWhile isSpace

def hexValue? (c : Char) : Option Nat :=
  if '0' ≤ c && c ≤ '9' then some (c.toNat - 48)
  else if 'a' ≤ c && c ≤ 'f' then some (c.toNat - 87)
  else if 'A' ≤ c && c ≤ 'F' then some (c.toNat - 55)
  else none

/-- The number that four hexadecimal digits stand for. -/
def hexUnit? (a b c d : Char) : Option Nat := do
  return (((← hexValue? a) * 16 + (← hexValue? b)) * 16 + (← hexValue? c)) * 16 + (← hexValue? d)

/-- The character that a backslash followed by a letter stands for. -/
def escaped? (c : Char) : Option Char :=
  if c = '"' || c = '\\' || c = '/' then some c
  else if c = 'b' then some '\x08'
  else if c = 'f' then some '\x0c'
  else if c = 'n' then some '\n'
  else if c = 'r' then some '\r'
  else if c = 't' then some '\t'
  else none

def consTo (c : Char) : Option (List Char × List Char) → Option (List Char × List Char)
  | some (cs, rest) => some (c :: cs, rest)
  | none => none

/-- The text after half a pair that stays alone. -/
def afterHalf (rules : Rules) (unit : Option Nat) (text : Option (List Char × List Char)) :
    Option (List Char × List Char) :=
  match unit with
  | none => text
  | some unit => if rules.strict then none else consTo (Text.standIn unit) text

/-- The rest of a string up to its closing quote, and what follows it. A unit `high` is the first
half of a pair that the next escape may complete. -/
def string? (rules : Rules) (high : Option Nat) : List Char → Option (List Char × List Char)
  | '\\' :: 'u' :: a :: b :: c :: d :: rest =>
    match hexUnit? a b c d with
    | none => none
    | some unit =>
      if Text.isHighUnit unit then afterHalf rules high (string? rules (some unit) rest)
      else if Text.isLowUnit unit then
        match high with
        | some high => consTo (Text.ofPair high unit) (string? rules none rest)
        | none => afterHalf rules (some unit) (string? rules none rest)
      else afterHalf rules high (consTo (Char.ofNat unit) (string? rules none rest))
  | '"' :: rest => afterHalf rules high (some ([], rest))
  | '\\' :: c :: rest =>
    match escaped? c with
    | some c => afterHalf rules high (consTo c (string? rules none rest))
    | none => none
  | c :: rest =>
    if c = '\\' || c.toNat < 0x20 then none
    else afterHalf rules high (consTo c (string? rules none rest))
  | [] => none

/-- The digits of the ten that are used in JSON, and what follows them. -/
def takeDecimals : List Char → List Nat × List Char
  | [] => ([], [])
  | c :: rest =>
    if '0' ≤ c && c ≤ '9' then
      let (ds, after) := takeDecimals rest
      ((c.toNat - 48) :: ds, after)
    else ([], c :: rest)

/-- The places after a decimal point, if there are any, and what follows them. -/
def places : List Char → Option (List Nat) × List Char
  | '.' :: rest =>
    match takeDecimals rest with
    | ([], _) => (none, '.' :: rest)
    | (ds, after) => (some ds, after)
  | cs => (none, cs)

/-- The sign and digits of an exponent. -/
def exponent? (cs : List Char) : Option (Int × List Char) :=
  let (negative, digits) :=
    match cs with
    | '+' :: digits => (false, digits)
    | '-' :: digits => (true, digits)
    | digits => (false, digits)
  match takeDecimals digits with
  | ([], _) => none
  | (ds, rest) =>
    let n : Int := Text.ofDigits ds
    some (if negative then -n else n, rest)

/-- The exponent, if there is one, and what follows it. -/
def scale : List Char → Option Int × List Char
  | [] => (none, [])
  | c :: rest =>
    if c = 'e' || c = 'E' then
      match exponent? rest with
      | some (n, rest) => (some n, rest)
      | none => (none, c :: rest)
    else (none, c :: rest)

/-- The value that digits, places and an exponent give. -/
def number (rules : Rules) (negative : Bool) (whole : List Nat) (places : Option (List Nat))
    (exponent : Option Int) : Except ReadError Json :=
  let isInteger := places.isNone && exponent.isNone
  if (isInteger || rules.strict) && Text.digitLimit < whole.length then .error .excessive
  else if isInteger then
    let n : Int := Text.ofDigits whole
    .ok (.int (if negative then -n else n))
  else
    let places := places.getD []
    let n := Text.ofDigits (whole ++ places)
    let bits := Number.nearestDecimal n (exponent.getD 0 - places.length)
    .ok (.float (Number.ofMagnitude negative bits))

/-- An unsigned number at the front, to which the sign is added. What looks like the beginning of a
fraction or an exponent but has no digits does not belong to it. -/
def unsigned (rules : Rules) (negative : Bool) (cs : List Char) :
    Except ReadError (Json × List Char) :=
  match takeDecimals cs with
  | ([], _) => .error .malformed
  | (0 :: _ :: _, _) => .error .malformed
  | (whole, rest) =>
    let (places, rest) := places rest
    let (exponent, rest) := scale rest
    (number rules negative whole places exponent).map fun json => (json, rest)

/-- A word or number at the front. -/
def scalar (rules : Rules) : List Char → Except ReadError (Json × List Char)
  | 'n' :: 'u' :: 'l' :: 'l' :: rest => .ok (.null, rest)
  | 't' :: 'r' :: 'u' :: 'e' :: rest => .ok (.bool true, rest)
  | 'f' :: 'a' :: 'l' :: 's' :: 'e' :: rest => .ok (.bool false, rest)
  | 'N' :: 'a' :: 'N' :: rest => .ok (.float Number.notANumber, rest)
  | 'I' :: 'n' :: 'f' :: 'i' :: 'n' :: 'i' :: 't' :: 'y' :: rest =>
    .ok (.float (Number.ofMagnitude false Number.infinite), rest)
  | '-' :: 'I' :: 'n' :: 'f' :: 'i' :: 'n' :: 'i' :: 't' :: 'y' :: rest =>
    .ok (.float (Number.ofMagnitude true Number.infinite), rest)
  | '-' :: rest => unsigned rules true rest
  | cs => unsigned rules false cs

mutual

/-- A value at the front of a text without leading space. Every call has one unit of `fuel` less, so
twice the length of the text is enough; `depth` more levels may be opened. -/
def value (rules : Rules) (fuel depth : Nat) (cs : List Char) :
    Except ReadError (Json × List Char) :=
  match fuel with
  | 0 => .error .malformed
  | fuel + 1 =>
    match cs with
    | '"' :: rest =>
      match string? rules none rest with
      | some (s, rest) => .ok (.text (String.ofList s), rest)
      | none => .error .malformed
    | '[' :: rest =>
      match skipSpace rest, depth with
      | ']' :: rest, _ => .ok (.array [], rest)
      | _, 0 => .error .excessive
      | rest, depth + 1 => (items rules fuel depth rest).map fun (xs, rest) => (.array xs, rest)
    | '\x7b' :: rest =>
      match skipSpace rest, depth with
      | '\x7d' :: rest, _ => .ok (.object [], rest)
      | _, 0 => .error .excessive
      | rest, depth + 1 =>
        (members rules fuel depth [] rest).map fun (ms, rest) => (.object ms, rest)
    | cs => scalar rules cs

/-- The items of an array up to its closing bracket. -/
def items (rules : Rules) (fuel depth : Nat) (cs : List Char) :
    Except ReadError (List Json × List Char) :=
  match fuel with
  | 0 => .error .malformed
  | fuel + 1 =>
    match value rules fuel depth cs with
    | .error error => .error error
    | .ok (x, rest) =>
      match skipSpace rest with
      | ']' :: rest => .ok ([x], rest)
      | ',' :: rest =>
        (items rules fuel depth (skipSpace rest)).map fun (xs, rest) => (x :: xs, rest)
      | _ => .error .malformed

/-- The members of an object up to its closing brace, added to those before them. -/
def members (rules : Rules) (fuel depth : Nat) (before : List (String × Json)) (cs : List Char) :
    Except ReadError (List (String × Json) × List Char) :=
  match fuel with
  | 0 => .error .malformed
  | fuel + 1 =>
    match cs with
    | '"' :: rest =>
      match string? rules none rest with
      | none => .error .malformed
      | some (key, rest) =>
        match skipSpace rest with
        | ':' :: rest =>
          match value rules fuel depth (skipSpace rest) with
          | .error error => .error error
          | .ok (x, rest) =>
            let known := put before (String.ofList key) x
            match skipSpace rest with
            | '\x7d' :: rest => .ok (known, rest)
            | ',' :: rest => members rules fuel depth known (skipSpace rest)
            | _ => .error .malformed
        | _ => .error .malformed
    | _ => .error .malformed

end

/-- The value that a whole text stands for. -/
def read (rules : Rules) (cs : List Char) : Except ReadError Json :=
  match value rules (2 * cs.length + 1) rules.depth (skipSpace cs) with
  | .error error => .error error
  | .ok (x, rest) => if (skipSpace rest).isEmpty then .ok x else .error .malformed

end EventFlow.Json
