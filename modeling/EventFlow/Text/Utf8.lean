/-!
Text as bytes. Bytes that are no text are read with a replacement character for every part that
could not be continued to a character.
-/

namespace EventFlow.Text

def utf8 (cs : List Char) : List UInt8 :=
  cs.flatMap String.utf8EncodeChar

def replacement : Char := '\ufffd'

/-- The begun part of a character: its bits so far, the range of the next byte, and how many bytes
come after that one. -/
structure Begun where
  bits : Nat
  low : Nat
  high : Nat
  more : Nat
  deriving DecidableEq, Repr

/-- The first byte of a character. -/
def beginChar (b : UInt8) : List Char × Option Begun :=
  let n := b.toNat
  if n < 0x80 then ([Char.ofNat n], none)
  else if n < 0xc2 then ([replacement], none)
  else if n < 0xe0 then ([], some ⟨n - 0xc0, 0x80, 0xbf, 0⟩)
  else if n < 0xf0 then
    let low := if n = 0xe0 then 0xa0 else 0x80
    let high := if n = 0xed then 0x9f else 0xbf
    ([], some ⟨n - 0xe0, low, high, 1⟩)
  else if n < 0xf5 then
    let low := if n = 0xf0 then 0x90 else 0x80
    let high := if n = 0xf4 then 0x8f else 0xbf
    ([], some ⟨n - 0xf0, low, high, 2⟩)
  else ([replacement], none)

/-- One more byte: the characters it ends, and the one it leaves begun. -/
def nextByte (begun : Option Begun) (b : UInt8) : List Char × Option Begun :=
  match begun with
  | none => beginChar b
  | some p =>
    let n := b.toNat
    if p.low ≤ n && n ≤ p.high then
      let bits := p.bits * 64 + (n - 0x80)
      match p.more with
      | 0 => ([Char.ofNat bits], none)
      | more + 1 => ([], some ⟨bits, 0x80, 0xbf, more⟩)
    else
      let (cs, next) := beginChar b
      (replacement :: cs, next)

/-- The characters of the bytes that follow a begun character. -/
def ofUtf8From : Option Begun → List UInt8 → List Char
  | none, [] => []
  | some _, [] => [replacement]
  | begun, b :: rest =>
    let (cs, next) := nextByte begun b
    cs ++ ofUtf8From next rest

/-- The text that bytes stand for. -/
def ofUtf8 (bytes : List UInt8) : List Char :=
  ofUtf8From none bytes

end EventFlow.Text
