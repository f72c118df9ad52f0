import EventFlow.Text.Utf8
import Mathlib.Data.List.Basic

/-!
Text as bytes and back.

* `beginChar_two`, `beginChar_three`, `beginChar_four`, `ofUtf8From_next`, `ofUtf8From_last`: one
  byte of a character of several bytes;
* `ofUtf8From_encodeChar`: the bytes of a character are read as that character, whatever follows;
* `ofUtf8_utf8`: the bytes of a text are read as that text.
-/

namespace EventFlow.Text

/-- A byte after the first of a character, which holds six bits of it. -/
def further (n : Nat) : UInt8 :=
  UInt8.ofNat (n % 64 + 0x80)

theorem toNat_further (n : Nat) : (further n).toNat = n % 64 + 0x80 := by
  have small : n % 64 + 0x80 < 256 := by omega
  simp only [further, UInt8.toNat_ofNat', Nat.reducePow]
  exact Nat.mod_eq_of_lt small

section Bytes

variable {n : Nat} {rest : List UInt8}

theorem toNat_byte (small : n < 256) : (UInt8.ofNat n).toNat = n := by
  simp only [UInt8.toNat_ofNat', Nat.reducePow]
  exact Nat.mod_eq_of_lt small

theorem beginChar_one (ascii : n < 0x80) : beginChar (UInt8.ofNat n) = ([Char.ofNat n], none) := by
  unfold beginChar
  rw [toNat_byte (by omega), if_pos ascii]

theorem beginChar_two (low : 2 ≤ n) (high : n < 0x20) :
    beginChar (UInt8.ofNat (n + 0xc0)) = ([], some ⟨n, 0x80, 0xbf, 0⟩) := by
  unfold beginChar
  rw [toNat_byte (by omega)]
  simp only
  rw [if_neg (by omega), if_neg (by omega), if_pos (by omega), Nat.add_sub_cancel]

theorem beginChar_three (high : n < 0x10) :
    beginChar (UInt8.ofNat (n + 0xe0)) = ([], some ⟨n, if n = 0 then 0xa0 else 0x80,
      if n = 0xd then 0x9f else 0xbf, 1⟩) := by
  unfold beginChar
  rw [toNat_byte (by omega)]
  simp only
  rw [if_neg (by omega), if_neg (by omega), if_neg (by omega), if_pos (by omega),
    Nat.add_sub_cancel]
  congr 4
  · simp
  · simp

theorem beginChar_four (high : n < 5) :
    beginChar (UInt8.ofNat (n + 0xf0)) = ([], some ⟨n, if n = 0 then 0x90 else 0x80,
      if n = 4 then 0x8f else 0xbf, 2⟩) := by
  unfold beginChar
  rw [toNat_byte (by omega)]
  simp only
  rw [if_neg (by omega), if_neg (by omega), if_neg (by omega), if_neg (by omega),
    if_pos (by omega), Nat.add_sub_cancel]
  congr 4
  · simp
  · simp

theorem ofUtf8From_begin {b : UInt8} {p : Begun} (begins : beginChar b = ([], some p)) :
    ofUtf8From none (b :: rest) = ofUtf8From (some p) rest := by
  rw [ofUtf8From, nextByte, begins]
  rfl

theorem ofUtf8From_next {p : Begun} {more : Nat} (count : p.more = more + 1)
    (low : p.low ≤ n % 64 + 0x80) (high : n % 64 + 0x80 ≤ p.high) :
    ofUtf8From (some p) (further n :: rest) =
      ofUtf8From (some ⟨p.bits * 64 + n % 64, 0x80, 0xbf, more⟩) rest := by
  rw [ofUtf8From, nextByte]
  simp only [toNat_further, low, high, decide_true, Bool.and_self, ↓reduceIte, count,
    Nat.add_sub_cancel, List.nil_append]

theorem ofUtf8From_last {p : Begun} (count : p.more = 0) (low : p.low ≤ n % 64 + 0x80)
    (high : n % 64 + 0x80 ≤ p.high) :
    ofUtf8From (some p) (further n :: rest) =
      Char.ofNat (p.bits * 64 + n % 64) :: ofUtf8From none rest := by
  rw [ofUtf8From, nextByte]
  simp only [toNat_further, low, high, decide_true, Bool.and_self, ↓reduceIte, count,
    Nat.add_sub_cancel, List.singleton_append]

end Bytes

/-- The bytes of a character: six bits in each but the first. -/
theorem encodeChar_eq (c : Char) : String.utf8EncodeChar c =
    if c.toNat ≤ 0x7f then [UInt8.ofNat c.toNat]
    else if c.toNat ≤ 0x7ff then [UInt8.ofNat (c.toNat / 64 % 0x20 + 0xc0), further c.toNat]
    else if c.toNat ≤ 0xffff then
      [UInt8.ofNat (c.toNat / 4096 % 0x10 + 0xe0), further (c.toNat / 64), further c.toNat]
    else [UInt8.ofNat (c.toNat / 262144 % 8 + 0xf0), further (c.toNat / 4096),
      further (c.toNat / 64), further c.toNat] :=
  rfl

theorem ofUtf8From_encodeChar (c : Char) (rest : List UInt8) :
    ofUtf8From none (String.utf8EncodeChar c ++ rest) = c :: ofUtf8From none rest := by
  have valid : c.toNat < 0xd800 ∨ 0xdfff < c.toNat ∧ c.toNat < 0x110000 := c.valid
  have back : ∀ n, n = c.toNat → Char.ofNat n = c := by
    rintro n rfl
    exact Char.ofNat_toNat c
  rw [encodeChar_eq]
  split
  · rw [List.singleton_append, ofUtf8From, nextByte, beginChar_one (by omega), back _ rfl]
    rfl
  · simp only [apply_ite (· ++ rest), List.cons_append, List.nil_append]
    split
    · rw [ofUtf8From_begin (beginChar_two (by omega) (by omega)), ofUtf8From_last rfl, back]
      all_goals
        dsimp only
        omega
    · split
      · rw [ofUtf8From_begin (beginChar_three (by omega)), ofUtf8From_next rfl,
          ofUtf8From_last rfl, back]
        all_goals
          dsimp only
          try split
          all_goals omega
      · rw [ofUtf8From_begin (beginChar_four (by omega)), ofUtf8From_next rfl,
          ofUtf8From_next rfl, ofUtf8From_last rfl, back]
        all_goals
          dsimp only
          try split
          all_goals omega

/-- The bytes of a text are read as that text. -/
theorem ofUtf8_utf8 (cs : List Char) : ofUtf8 (utf8 cs) = cs := by
  induction cs with
  | nil => rfl
  | cons c rest ih =>
    change ofUtf8From none (String.utf8EncodeChar c ++ utf8 rest) = _
    rw [ofUtf8From_encodeChar]
    exact congrArg (c :: ·) ih

end EventFlow.Text
