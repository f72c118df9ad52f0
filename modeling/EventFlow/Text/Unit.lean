/-!
Text in units of sixteen bits, where a character beyond U+FFFF is a pair of units. Half a pair is no
character. Where it has to be kept all the same, a stand-in takes its place: a code point of a plane
in which no character is assigned.
-/

namespace EventFlow.Text

def isHighUnit (unit : Nat) : Bool :=
  0xd800 ≤ unit && unit < 0xdc00

def isLowUnit (unit : Nat) : Bool :=
  0xdc00 ≤ unit && unit < 0xe000

/-- The character that a pair of units stands for. -/
def ofPair (high low : Nat) : Char :=
  Char.ofNat (0x10000 + (high - 0xd800) * 0x400 + (low - 0xdc00))

/-- The stand-in for half a pair. -/
def standIn (unit : Nat) : Char :=
  Char.ofNat (0xd0000 + unit)

/-- The half of a pair that a character stands in for. -/
def halfPair? (c : Char) : Option Nat :=
  if 0xdd800 ≤ c.toNat && c.toNat < 0xde000 then some (c.toNat - 0xd0000) else none

/-- A code point as a character; half a pair is replaced by its stand-in. -/
def ofCodePoint? (n : Nat) : Option Char :=
  if isHighUnit n || isLowUnit n then some (standIn n)
  else if n < 0x110000 then some (Char.ofNat n)
  else none

/-- The characters of some units; half a pair is replaced by its stand-in. -/
def ofUnits : List Nat → List Char
  | [] => []
  | [unit] => (ofCodePoint? unit).toList
  | high :: low :: rest =>
    if isHighUnit high && isLowUnit low then ofPair high low :: ofUnits rest
    else (ofCodePoint? high).toList ++ ofUnits (low :: rest)

end EventFlow.Text
