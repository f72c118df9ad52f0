import EventFlow.Service.Percent
import EventFlow.Text.Search

/-!
The target of a request: a path without escapes and a query with them. Paths are taken as they are:
double slashes, dots and hash signs have no meaning of their own.
-/

namespace EventFlow.Service

/-- The parameters of a query, in order. -/
abbrev Query := List (String × String)

structure Target where
  path : List Char
  query : List Char
  deriving DecidableEq, Repr

namespace Target

/-- The target that a text stands for; the query follows the first question mark. -/
def ofText (text : String) : Target where
  path := Percent.decode (text.toList.takeWhile (· != '?'))
  query := (text.toList.dropWhile (· != '?')).drop 1

/-- The segments of a path after the slash it begins with. A slash at the end is followed by an
empty segment. -/
def segments? (t : Target) : Option (List String) :=
  match t.path with
  | '/' :: rest => some ((Text.splitOnChar '/' rest).map String.ofList)
  | _ => none

/-- The text of one part of a parameter. Bytes that are not escaped are one character each. -/
def parameterText (cs : List Char) : String :=
  let latin := (Text.utf8 cs).map fun b => Char.ofNat b.toNat
  String.ofList (Percent.decode (latin.map fun c => if c = '+' then ' ' else c))

/-- A parameter, which has an empty value if it has none. -/
def parameter (cs : List Char) : String × String :=
  (parameterText (cs.takeWhile (· != '=')), parameterText ((cs.dropWhile (· != '=')).drop 1))

def parameters (t : Target) : Query :=
  ((Text.splitOnChar '&' t.query).filter fun part => !part.isEmpty).map parameter

/-- The same target with a slash at the end of its path, or without any if it has one. -/
def toggleSlash (t : Target) : Target :=
  if t.path.getLast? = some '/' then
    { t with path := (t.path.reverse.dropWhile (· == '/')).reverse }
  else { t with path := t.path ++ ['/'] }

/-- The address of a target at a host. A question mark or hash sign in the path is escaped. -/
def address (t : Target) (host : String) : String :=
  let path := Percent.encode (fun c => c != '?' && c != '#') t.path
  let query := if t.query.isEmpty then [] else '?' :: t.query
  String.ofList (Percent.encode Percent.isAddress (("http://" ++ host).toList ++ path ++ query))

end Target

/-- The value of a parameter, the last one if it comes several times. -/
def Query.get? (q : Query) (name : String) : Option String :=
  (q.reverse.find? fun p => p.1 == name).map Prod.snd

end EventFlow.Service
