import EventFlow.Text.CaseTable

/-!
Lower and upper case of whole texts, by the full case mappings of Unicode: one letter may become
several, and a capital sigma that ends a word becomes a final sigma.
-/

namespace EventFlow.Text

def CaseRange.image? (r : CaseRange) (n : Nat) : Option Nat :=
  if r.first ≤ n && n ≤ r.last && (n - r.first) % r.stride == 0 then
    some ((n : Int) + r.offset).toNat
  else none

/-- The letters a letter is mapped to by a table of ranges and a list of exceptions. -/
def mapLetter (ranges : List CaseRange) (special : List (Nat × List Nat)) (c : Char) : List Char :=
  let n := c.toNat
  match special.lookup n with
  | some image => image.map Char.ofNat
  | none =>
    match ranges.findSome? (fun r => r.image? n) with
    | some m => [Char.ofNat m]
    | none => [c]

def inRanges (ranges : List (Nat × Nat)) (c : Char) : Bool :=
  ranges.any (fun r => r.1 ≤ c.toNat && c.toNat ≤ r.2)

/-- Whether a letter with a case comes first, once the skipped characters are left out. -/
def meetsLetter (cs : List Char) : Bool :=
  match cs.dropWhile (inRanges caseIgnorable) with
  | [] => false
  | c :: _ => inRanges casedLetters c

def lowerLetter (c : Char) : List Char :=
  if c.toNat < 0x80 then [c.toLower] else mapLetter lowerRanges lowerSpecial c

/-- Lower case of a text; `before` holds the characters already passed, the nearest one first. -/
def lowerFrom (before : List Char) : List Char → List Char
  | [] => []
  | c :: rest =>
    let image :=
      if c = 'Σ' then [if meetsLetter before && !meetsLetter rest then 'ς' else 'σ']
      else lowerLetter c
    image ++ lowerFrom (c :: before) rest

def lower (cs : List Char) : List Char :=
  lowerFrom [] cs

def upperLetter (c : Char) : List Char :=
  if c.toNat < 0x80 then [c.toUpper] else mapLetter upperRanges upperSpecial c

def upper (cs : List Char) : List Char :=
  cs.flatMap upperLetter

def lowerText (s : String) : String :=
  String.ofList (lower s.toList)

def upperText (s : String) : String :=
  String.ofList (upper s.toList)

end EventFlow.Text
