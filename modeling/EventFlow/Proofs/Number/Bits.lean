import EventFlow.Number.Binary64
import Mathlib

/-!
Floats and their bits.

* `ofMagnitude_magnitude`: a float is made of its sign and its magnitude;
* `eq_notANumber`: there is one NaN only.
-/

namespace EventFlow.Number

/-- A float is made of its sign and its magnitude. -/
theorem ofMagnitude_magnitude (x : Float) : ofMagnitude (isNegative x) (magnitude x) = x := by
  have bound : x.toBits.toNat < 2 ^ 64 := x.toBits.toNat_lt
  have bits : (if isNegative x then magnitude x + signUnit else magnitude x) = x.toBits.toNat := by
    by_cases negative : signUnit ≤ x.toBits.toNat
    · have sign : isNegative x = true := decide_eq_true negative
      simp only [sign, ↓reduceIte, magnitude, signUnit] at negative ⊢
      omega
    · have sign : isNegative x = false := decide_eq_false negative
      simp only [sign, Bool.false_eq_true, ↓reduceIte, magnitude, signUnit] at negative ⊢
      omega
  rw [ofMagnitude, bits, UInt64.ofNat_toNat, Float.ofBits_toBits]

section NotANumber

open Float.Model (Format)
open Float.Model.UnpackedFloat

theorem unpackMantissa_toNat (b : BitVec Format.binary64.numBits) :
    (unpackMantissa b).toNat = b.toNat % 2 ^ 52 := by
  simp [unpackMantissa_def]

theorem unpackExponent_toNat (b : BitVec Format.binary64.numBits) :
    (unpackExponent b).toNat = b.toNat / 2 ^ 52 % 2 ^ 11 := by
  simp [unpackExponent_def, Nat.shiftRight_eq_div_pow]

/-- There is one NaN only. -/
theorem eq_notANumber {x : Float} (beyond : infinite < magnitude x) : x = notANumber := by
  have bound : x.toBits.toNat < 2 ^ 64 := x.toBits.toNat_lt
  simp only [infinite, fractionUnit, magnitude, signUnit] at beyond
  let bits : BitVec Format.binary64.numBits := x.toBits.toBitVec
  have word : bits.toNat = x.toBits.toNat := rfl
  have exponent : unpackExponent bits = -1#_ := by
    have ones : (-1#11).toNat = 2047 := rfl
    apply BitVec.eq_of_toNat_eq
    rw [unpackExponent_toNat, word]
    change _ = (-1#11).toNat
    omega
  have mantissa : unpackMantissa bits ≠ 0#_ := by
    intro zero
    have low := congrArg BitVec.toNat zero
    rw [unpackMantissa_toNat, word] at low
    change _ = (0#52).toNat at low
    rw [BitVec.toNat_zero] at low
    omega
  have same : x.toBits.toBitVec = packedNaN Format.binary64 :=
    x.toModel.valid.eq_packedNaN exponent mantissa
  rw [← Float.ofBits_toBits x, UInt64.eq_of_toBitVec_eq same]
  rfl

end NotANumber

end EventFlow.Number
