import EventFlow.Json.Reader
import EventFlow.Text.Quoted
import EventFlow.Text.Utf8

/-!
Percent escapes, which write any byte of a text as two hexadecimal digits.
-/

namespace EventFlow.Service.Percent

/-- The bytes of a text; a percent sign without two hexadecimal digits stands for itself. -/
def bytes : List Char → List UInt8
  | [] => []
  | '%' :: a :: b :: rest =>
    match Json.hexValue? a, Json.hexValue? b with
    | some high, some low => (high * 16 + low).toUInt8 :: bytes rest
    | _, _ => 0x25 :: bytes (a :: b :: rest)
  | c :: rest => String.utf8EncodeChar c ++ bytes rest

def decode (cs : List Char) : List Char :=
  Text.ofUtf8 (bytes cs)

def escape (b : UInt8) : List Char :=
  '%' :: (Text.hex 2 b.toNat).map Char.toUpper

/-- A text with all characters escaped but those that are `safe`. -/
def encode (safe : Char → Bool) (cs : List Char) : List Char :=
  cs.flatMap fun c => if safe c then [c] else (String.utf8EncodeChar c).flatMap escape

/-- A character that needs no escape anywhere. -/
def isUnreserved (c : Char) : Bool :=
  c.isAlphanum || ['_', '.', '-', '~'].contains c

/-- A character that stands unescaped in an address. -/
def isAddress (c : Char) : Bool :=
  isUnreserved c || ":/%#?=@[]!$&'()*+,;".toList.contains c

end EventFlow.Service.Percent
