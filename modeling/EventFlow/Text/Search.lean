/-!
Searching for one text inside another. Positions count characters from zero.
-/

namespace EventFlow.Text

/-- The first position at which `part` stands in `whole`. -/
def indexOf? (part : List Char) : List Char → Option Nat
  | [] => if part.isEmpty then some 0 else none
  | c :: rest =>
    if part.isPrefixOf (c :: rest) then some 0
    else (indexOf? part rest).map (· + 1)

/-- The last position at which `part` stands in `whole`. -/
def lastIndexOf? (part : List Char) : List Char → Option Nat
  | [] => if part.isEmpty then some 0 else none
  | c :: rest =>
    match lastIndexOf? part rest with
    | some i => some (i + 1)
    | none => if part.isPrefixOf (c :: rest) then some 0 else none

/-- The pieces of a text between the occurrences of a separator, at least one. -/
def splitOnChar (separator : Char) : List Char → List (List Char)
  | [] => [[]]
  | c :: rest =>
    if c = separator then [] :: splitOnChar separator rest
    else
      match splitOnChar separator rest with
      | [] => [[c]]
      | piece :: pieces => (c :: piece) :: pieces

end EventFlow.Text
