import EventFlow.Text.Search

/-!
Paths. Empty and dot components are dropped, and a double dot is kept until the path is looked up.
-/

namespace EventFlow.Files

structure Path where
  absolute : Bool
  parts : List String
  deriving DecidableEq, Repr

namespace Path

def ofText (text : String) : Path where
  absolute := text.toList.head? = some '/'
  parts := ((Text.splitOnChar '/' text.toList).map String.ofList).filter fun part =>
    part != "" && part != "."

def text (p : Path) : String :=
  if p.absolute then "/" ++ String.intercalate "/" p.parts
  else if p.parts.isEmpty then "."
  else String.intercalate "/" p.parts

/-- The last component, empty if there is none. -/
def name (p : Path) : String :=
  p.parts.getLast?.getD ""

def parent (p : Path) : Path :=
  { p with parts := p.parts.dropLast }

/-- The path of a name below a directory; an empty name leaves the directory. -/
def child (p : Path) (name : String) : Path :=
  if name = "" then p else { p with parts := p.parts ++ [name] }

/-- The sibling whose name is longer by a suffix. -/
def sibling (p : Path) (suffix : String) : Path :=
  { p with parts := p.parts.dropLast ++ [p.name ++ suffix] }

end Path

end EventFlow.Files
