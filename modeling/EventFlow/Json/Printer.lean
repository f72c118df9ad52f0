import EventFlow.Json.Basic
import EventFlow.Number.Notation
import EventFlow.Text.Quoted

/-!
Writing JSON text: `compact` without any space, `pretty` with one item a line and two spaces for
each level. Only quotes, backslashes and control characters are escaped, and integers are written
whatever their size.
-/

namespace EventFlow.Json

def escapeChar (c : Char) : List Char :=
  if c = '"' then ['\\', '"']
  else if c = '\\' then ['\\', '\\']
  else if c = '\x08' then ['\\', 'b']
  else if c = '\x0c' then ['\\', 'f']
  else if c = '\n' then ['\\', 'n']
  else if c = '\r' then ['\\', 'r']
  else if c = '\t' then ['\\', 't']
  else if c.toNat < 0x20 then '\\' :: 'u' :: Text.hex 4 c.toNat
  else [c]

/-- A text between quotes. -/
def quote (s : String) : List Char :=
  '"' :: s.toList.flatMap escapeChar ++ ['"']

/-- A value without parts. -/
def leaf : Json → List Char
  | null => "null".toList
  | bool b => if b then "true".toList else "false".toList
  | int n => (Text.decimal n).toList
  | float x => Number.chars x
  | text s => quote s
  | array _ => "[]".toList
  | object _ => ['\x7b', '\x7d']

mutual

/-- A value on one line, without space between its parts. -/
def compact : Json → List Char
  | array (x :: xs) => '[' :: compact x ++ compactItems xs
  | object ((key, x) :: rest) =>
    '\x7b' :: quote key ++ ':' :: compact x ++ compactMembers rest
  | null => leaf .null
  | bool b => leaf (.bool b)
  | int n => leaf (.int n)
  | float x => leaf (.float x)
  | text s => leaf (.text s)
  | array [] => leaf (.array [])
  | object [] => leaf (.object [])

def compactItems : List Json → List Char
  | [] => [']']
  | x :: xs => ',' :: compact x ++ compactItems xs

def compactMembers : List (String × Json) → List Char
  | [] => ['\x7d']
  | (key, x) :: rest => ',' :: quote key ++ ':' :: compact x ++ compactMembers rest

end

/-- A new line at a level of nesting. -/
def newline (level : Nat) : List Char :=
  '\n' :: List.replicate (2 * level) ' '

mutual

/-- A value whose first line is already indented to `level`. -/
def pretty (level : Nat) : Json → List Char
  | array (x :: xs) =>
    '[' :: newline (level + 1) ++ pretty (level + 1) x ++ prettyItems level xs
  | object ((key, x) :: rest) =>
    '\x7b' :: newline (level + 1) ++ quote key ++ ':' :: ' ' :: pretty (level + 1) x ++
      prettyMembers level rest
  | null => leaf .null
  | bool b => leaf (.bool b)
  | int n => leaf (.int n)
  | float x => leaf (.float x)
  | text s => leaf (.text s)
  | array [] => leaf (.array [])
  | object [] => leaf (.object [])

/-- The further items of an array at `level`. -/
def prettyItems (level : Nat) : List Json → List Char
  | [] => newline level ++ [']']
  | x :: xs => ',' :: newline (level + 1) ++ pretty (level + 1) x ++ prettyItems level xs

/-- The further members of an object at `level`. -/
def prettyMembers (level : Nat) : List (String × Json) → List Char
  | [] => newline level ++ ['\x7d']
  | (key, x) :: rest =>
    ',' :: newline (level + 1) ++ quote key ++ ':' :: ' ' :: pretty (level + 1) x ++
      prettyMembers level rest

end

/-- Why characters cannot be written as bytes: where halves of pairs stand for the first time. -/
def encodingFault? (cs : List Char) : Option String :=
  let isHalf (c : Char) := (Text.halfPair? c).isSome
  match cs.dropWhile fun c => !isHalf c with
  | [] => none
  | c :: rest =>
    let first := (cs.takeWhile fun c => !isHalf c).length
    let more := (rest.takeWhile isHalf).length
    some ("'utf-8' codec can't encode character" ++
      (if more = 0 then " " ++ Text.quoted (String.ofList [c]) ++ " in position " ++ toString first
        else "s in position " ++ toString first ++ "-" ++ toString (first + more)) ++
      ": surrogates not allowed")

/-- Why a value cannot be written as bytes: what is wrong with the first of its texts that
cannot. -/
def writingFault? (json : Json) : Option String :=
  (json.leaves.findSome? fun
    | text s => encodingFault? s.toList
    | _ => none).map fun fault => "Error serializing to JSON: UnicodeEncodeError: " ++ fault

end EventFlow.Json
