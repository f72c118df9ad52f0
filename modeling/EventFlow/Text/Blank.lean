/-!
Blank characters and the stripping of blanks from both ends of a text. `strip` works on lists of
characters; `stripText` is the same on strings. `trim` strips white space only.
-/

namespace EventFlow.Text

/-- The white space of Unicode together with the four information separators U+001C to U+001F. -/
def isBlank (c : Char) : Bool :=
  let n := c.toNat
  (0x9 ≤ n && n ≤ 0xd) || (0x1c ≤ n && n ≤ 0x20) || n == 0x85 || n == 0xa0 || n == 0x1680 ||
    (0x2000 ≤ n && n ≤ 0x200a) || n == 0x2028 || n == 0x2029 || n == 0x202f || n == 0x205f ||
    n == 0x3000

/-- The list without its trailing blanks. -/
def stripEnd : List Char → List Char
  | [] => []
  | c :: rest =>
    match stripEnd rest with
    | [] => if isBlank c then [] else [c]
    | kept => c :: kept

/-- The list without its leading and trailing blanks. -/
def strip (cs : List Char) : List Char :=
  stripEnd (cs.dropWhile isBlank)

def stripText (s : String) : String :=
  String.ofList (strip s.toList)

/-- White space in the narrow sense, without the information separators. -/
def isSpace (c : Char) : Bool :=
  isBlank c && !(0x1c ≤ c.toNat && c.toNat ≤ 0x1f)

/-- The list without the white space at its beginning and end. -/
def trim (cs : List Char) : List Char :=
  ((cs.dropWhile isSpace).reverse.dropWhile isSpace).reverse

end EventFlow.Text
