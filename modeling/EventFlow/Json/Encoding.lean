import EventFlow.Text.Unit

/-!
JSON text as bytes. As the text begins with ASCII characters, its encoding shows in where the zeros
stand among the first four bytes.
-/

namespace EventFlow.Json

inductive Encoding where
  | utf8
  | utf16 (bigEndian : Bool)
  | utf32 (bigEndian : Bool)
  deriving DecidableEq, Repr

namespace Encoding

def ofBytes : List UInt8 → Encoding
  | 0 :: 0 :: _ :: _ :: _ => utf32 true
  | 0 :: _ :: _ :: _ :: _ => utf16 true
  | _ :: 0 :: 0 :: 0 :: _ => utf32 false
  | _ :: 0 :: _ :: _ :: _ => utf16 false
  | [0, _] => utf16 true
  | [_, 0] => utf16 false
  | _ => utf8

/-- The number that some bytes write, the lowest first or last. -/
def unit (bigEndian : Bool) (bytes : List UInt8) : Nat :=
  if bigEndian then bytes.foldl (fun n b => n * 256 + b.toNat) 0
  else bytes.foldr (fun b n => n * 256 + b.toNat) 0

/-- The numbers that pairs of bytes write. -/
def pairs? (bigEndian : Bool) : List UInt8 → Option (List Nat)
  | [] => some []
  | a :: b :: rest => (pairs? bigEndian rest).map (unit bigEndian [a, b] :: ·)
  | _ => none

/-- The numbers that four bytes each write. -/
def quads? (bigEndian : Bool) : List UInt8 → Option (List Nat)
  | [] => some []
  | a :: b :: c :: d :: rest => (quads? bigEndian rest).map (unit bigEndian [a, b, c, d] :: ·)
  | _ => none

/-- A text without the mark that may precede it. -/
def dropMark : List Char → List Char
  | '\ufeff' :: rest => rest
  | cs => cs

/-- The characters that bytes stand for. -/
def decode? (bytes : List UInt8) : Encoding → Option (List Char)
  | utf8 => (String.fromUTF8? ⟨bytes.toArray⟩).map fun text => dropMark text.toList
  | utf16 bigEndian => (pairs? bigEndian bytes).map Text.ofUnits
  | utf32 bigEndian => (quads? bigEndian bytes).bind fun points => points.mapM Text.ofCodePoint?

end Encoding

/-- The text that bytes stand for, in the encoding that they show. -/
def textOfBytes? (bytes : List UInt8) : Option (List Char) :=
  (Encoding.ofBytes bytes).decode? bytes

end EventFlow.Json
