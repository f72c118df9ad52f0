import EventFlow.Proofs.Number.Bits
import EventFlow.Proofs.Number.Rounding

/-!
Integers as floats. Up to 2^53 they are floats exactly, and so is what is left of one after taking
one away from it.

* `unpack_normal`, `toNat_pack`: the bits of a float of 53 bits, and the float of such bits;
* `round_exact`: a product of an integer and 2^52 is not rounded;
* `ofInt_sub_one`: counting down by one is exact;
* `zero_lt_ofInt_iff`: an integer is positive as a float if it is;
* `eq_ofInt_of_equalsInt`: a float that equals a positive integer is that integer as a float.
-/

namespace EventFlow.Number

open Float.Model (Format UnpackedFloat)
open Float.Model.UnpackedFloat

section Packing

variable {b : BitVec Format.binary64.numBits}

theorem unpackSign_toNat (b : BitVec Format.binary64.numBits) :
    (unpackSign b).toNat = b.toNat / 2 ^ 63 % 2 := by
  simp [unpackSign, Nat.shiftRight_eq_div_pow]

/-- The positive float of given bits, if it is neither subnormal nor infinite. -/
theorem unpack_normal (low : 2 ^ 52 ≤ b.toNat) (high : b.toNat < 2047 * 2 ^ 52) :
    UnpackedFloat.unpack Format.binary64 b =
      .finite .positive (2 ^ 52 + b.toNat % 2 ^ 52) ((b.toNat / 2 ^ 52 : Nat) - 1075)
        (by omega) := by
  have exponent := unpackExponent_toNat b
  have special : unpackExponent b ≠ -1#_ := by
    intro ones
    have all := congrArg BitVec.toNat ones
    rw [exponent] at all
    change _ = 2047 at all
    omega
  have subnormal : unpackExponent b ≠ 0#_ := by
    intro zeros
    have none := congrArg BitVec.toNat zeros
    rw [exponent] at none
    change _ = 0 at none
    omega
  have sign : unpackSign b = 0#1 := by
    apply BitVec.eq_of_toNat_eq
    rw [unpackSign_toNat]
    change _ = 0
    omega
  have mantissa : (1#1 ++ unpackMantissa b).toNat = 2 ^ 52 + b.toNat % 2 ^ 52 := by
    rw [BitVec.toNat_append, ← Nat.shiftLeft_add_eq_or_of_lt (unpackMantissa b).isLt,
      unpackMantissa_toNat b]
    simp [Nat.shiftLeft_eq]
  have unbiased : ((unpackExponent b).toNat : Int) -
      (Format.binary64.exponentBias + Format.binary64.mantissaBitsWithoutImplicit) =
        (b.toNat / 2 ^ 52 : Nat) - 1075 := by
    rw [exponent]
    change (_ : Int) - ((1023 : Nat) + (52 : Nat)) = _
    omega
  unfold UnpackedFloat.unpack
  simp only [special, subnormal, ↓reduceIte, sign, mantissa, unbiased]
  rfl

/-- The bits of a positive float of 53 bits. -/
theorem toNat_pack {m : Nat} {e : Int} (positive : 0 < m) (low : 2 ^ 52 ≤ m) (high : m < 2 ^ 53)
    (least : -1074 ≤ e) (most : e ≤ 971) :
    (UnpackedFloat.pack Format.binary64 (.finite .positive m e positive)).toNat =
      (e + 1074).toNat * fractionUnit + m := by
  have log : m.log2 = 52 := (Nat.log2_eq_iff (Nat.ne_of_gt positive)).2 ⟨low, high⟩
  have biased : (e + Format.binary64.exponentBias + (52 : Nat)).toNat = (e + 1074).toNat + 1 := by
    change (e + (1023 : Nat) + (52 : Nat)).toNat = _
    omega
  have normal : 52 + 1 = Format.binary64.mantissaBits := rfl
  unfold UnpackedFloat.pack
  simp only [log, biased]
  rw [if_neg (by omega), if_pos normal]
  simp only [packComponents, BitVec.toNat_append, ← Nat.shiftLeft_add_eq_or_of_lt (BitVec.isLt _)]
  simp [Sign.toBitVec, Nat.shiftLeft_eq, fractionUnit]
  omega

theorem toBits_ofMagnitude {bits : Nat} (low : 2 ^ 52 ≤ bits) (high : bits < 2047 * 2 ^ 52) :
    (ofMagnitude false bits).toBits.toNat = bits := by
  have word : (UInt64.ofNat bits).toBitVec.toNat = bits := by
    change (UInt64.ofNat bits).toNat = bits
    rw [UInt64.toNat_ofNat']
    omega
  change (UnpackedFloat.pack Format.binary64 (UnpackedFloat.unpack Format.binary64
    (UInt64.ofNat bits).toBitVec)).toNat = bits
  rw [unpack_normal (word.symm ▸ low) (word.symm ▸ high),
    toNat_pack _ (by omega) (by omega) (by omega) (by omega), word]
  simp only [fractionUnit]
  omega

end Packing

/-- A positive integer shifted to 53 bits. -/
def aligned (k : Nat) : Nat := k * 2 ^ (52 - k.log2)

/-- The exponent of an integer that is shifted to 53 bits. -/
def place (k : Nat) : Int := k.log2 - 52

section Aligned

variable {k : Nat}

theorem log2_le (positive : 0 < k) (small : k < 2 ^ 53) : k.log2 ≤ 52 :=
  Nat.le_of_lt_succ ((Nat.log2_lt (Nat.ne_of_gt positive)).2 small)

theorem log2_mul_two_pow (positive : 0 < k) (j : Nat) : (k * 2 ^ j).log2 = k.log2 + j := by
  rw [Nat.log2_eq_iff (Nat.ne_of_gt (Nat.mul_pos positive (Nat.two_pow_pos j)))]
  have low := Nat.log2_self_le (Nat.ne_of_gt positive)
  have high := @Nat.lt_log2_self k
  constructor
  · rw [Nat.pow_add]
    exact Nat.mul_le_mul_right _ low
  · rw [Nat.add_right_comm, Nat.pow_add]
    exact Nat.mul_lt_mul_of_pos_right high (Nat.two_pow_pos j)

theorem aligned_mul (positive : 0 < k) (small : k < 2 ^ 53) :
    aligned k * 2 ^ k.log2 = k * 2 ^ 52 := by
  rw [aligned, Nat.mul_assoc, ← Nat.pow_add, Nat.sub_add_cancel (log2_le positive small)]

theorem aligned_pos (positive : 0 < k) : 0 < aligned k :=
  Nat.mul_pos positive (Nat.two_pow_pos _)

theorem aligned_log2 (positive : 0 < k) (small : k < 2 ^ 53) : (aligned k).log2 = 52 := by
  rw [aligned, log2_mul_two_pow positive, Nat.add_sub_cancel' (log2_le positive small)]

theorem aligned_bounds (positive : 0 < k) (small : k < 2 ^ 53) :
    2 ^ 52 ≤ aligned k ∧ aligned k < 2 ^ 53 :=
  (Nat.log2_eq_iff (Nat.ne_of_gt (aligned_pos positive))).1 (aligned_log2 positive small)

theorem place_bounds (positive : 0 < k) (small : k < 2 ^ 53) : -52 ≤ place k ∧ place k ≤ 0 := by
  have places := log2_le positive small
  unfold place
  omega

/-- The magnitude of an integer of 53 bits. -/
theorem nearest_integer (positive : 0 < k) (small : k < 2 ^ 53) :
    nearest k 1 = (place k + 1074).toNat * fractionUnit + aligned k := by
  obtain ⟨low, high⟩ := aligned_bounds positive small
  obtain ⟨least, most⟩ := place_bounds positive small
  have places := log2_le positive small
  have same : (k : ℚ) / (1 : Nat) = aligned k * 2 ^ place k := by
    have shift : place k = -((52 - k.log2 : Nat) : Int) := by
      unfold place
      omega
    rw [shift, zpow_neg, zpow_natCast, aligned]
    push_cast
    field_simp
  rw [nearest_exact Nat.one_pos (aligned_pos positive) high (by omega) (.inl low) same]
  simp only [infinite, fractionUnit]
  omega

theorem toBits_ofInt (positive : 0 < k) (small : k < 2 ^ 53) :
    (ofInt k).toBits.toNat = (place k + 1074).toNat * fractionUnit + aligned k := by
  obtain ⟨low, high⟩ := aligned_bounds positive small
  obtain ⟨least, most⟩ := place_bounds positive small
  have plus : decide ((k : Int) < 0) = false := by simp
  have wide : (place k + 1074).toNat ≤ 1074 := by omega
  rw [ofInt, plus, Int.natAbs_natCast, nearest_integer positive small]
  apply toBits_ofMagnitude
  · omega
  · simp only [fractionUnit]
    omega

/-- An integer of 53 bits as a float, taken apart. -/
theorem unpack_ofInt (positive : 0 < k) (small : k < 2 ^ 53) :
    (ofInt k).toModel.unpack = .finite .positive (aligned k) (place k) (aligned_pos positive) := by
  obtain ⟨low, high⟩ := aligned_bounds positive small
  obtain ⟨least, most⟩ := place_bounds positive small
  have bits : (ofInt k).toBits.toBitVec.toNat = _ := toBits_ofInt positive small
  simp only [fractionUnit] at bits
  change UnpackedFloat.unpack Format.binary64 (ofInt k).toBits.toBitVec = _
  rw [unpack_normal (by omega) (by omega)]
  congr 1 <;> omega

/-- An integer of 53 bits as a float, put together. -/
theorem pack_ofInt (positive : 0 < k) (small : k < 2 ^ 53) :
    .ofModel (.pack (.finite .positive (aligned k) (place k) (aligned_pos positive))) =
      ofInt k := by
  obtain ⟨low, high⟩ := aligned_bounds positive small
  obtain ⟨least, most⟩ := place_bounds positive small
  have packed := toNat_pack (aligned_pos positive) low high
    (Int.le_trans (by decide) least) (Int.le_trans most (by decide))
  rw [← toBits_ofInt positive small] at packed
  have bits : (Float.Model.pack (.finite .positive (aligned k) (place k)
      (aligned_pos positive))).toBits = (ofInt k).toModel.toBits := UInt64.toNat_inj.1 packed
  cases whole : ofInt k with
  | ofModel model =>
    rw [whole] at bits
    cases model
    cases bits
    rfl

end Aligned

section Subtraction

variable {k : Nat}

/-- Shifting right loses nothing as long as the digits shifted out are zeros. -/
theorem shiftRight_exact (m j : Nat) :
    ExtendedMantissa.ofMantissaAndAccuracy (m * 2 ^ j) .exact >>> j =
      ExtendedMantissa.ofMantissaAndAccuracy m .exact := by
  change Nat.repeat ExtendedMantissa.shiftRightOne j _ = _
  induction j generalizing m with
  | zero => simp [Nat.repeat]
  | succ j ih =>
    have twice : m * 2 ^ (j + 1) = 2 * m * 2 ^ j := by ring
    rw [Nat.repeat, twice, ih]
    simp [ExtendedMantissa.shiftRightOne, ExtendedMantissa.ofMantissaAndAccuracy]

/-- A product of an integer and 2^52 has its bits shifted to 53 of them, and is not rounded. -/
theorem round_exact (positive : 0 < k) (small : k < 2 ^ 53) :
    UnpackedFloat.round Format.binary64 .positive (k * 2 ^ 52) (-52 : Int) =
      .finite .positive (aligned k) (place k) (aligned_pos positive) := by
  obtain ⟨least, most⟩ := place_bounds positive small
  have target : Format.binary64.targetExponent
      (Float.Model.totalExponent (k * 2 ^ 52) (-52)) = place k := by
    simp only [Format.targetExponent, Float.Model.totalExponent, log2_mul_two_pow positive]
    change max (_ - ((53 : Nat) : Int)) (-1074) = _
    unfold place at *
    omega
  have again : Format.binary64.targetExponent
      (Float.Model.totalExponent (aligned k) (place k)) = place k := by
    simp only [Format.targetExponent, Float.Model.totalExponent, aligned_log2 positive small]
    change max (_ - ((53 : Nat) : Int)) (-1074) = _
    omega
  have widened : ((-52 : Int) - place k).toNat = 0 := by omega
  have dropped : (place k - (-52)).toNat = k.log2 := by
    unfold place
    omega
  have first : shiftToTargetExponent Format.binary64 (k * 2 ^ 52) (-52) .exact =
      (ExtendedMantissa.ofMantissaAndAccuracy (aligned k) .exact, place k) := by
    simp only [shiftToTargetExponent, shiftToExponent, target, dropped]
    rw [← aligned_mul positive small, shiftRight_exact, Int.add_comm]
    rfl
  have second : shiftToTargetExponent Format.binary64 (aligned k) (place k) .exact =
      (ExtendedMantissa.ofMantissaAndAccuracy (aligned k) .exact, place k) := by
    simp only [shiftToTargetExponent, shiftToExponent, again, Int.sub_self]
    exact congrArg _ (Int.add_zero _)
  have rounded : (ExtendedMantissa.ofMantissaAndAccuracy (aligned k) .exact).roundedMantissa =
      aligned k := rfl
  have kept : (ExtendedMantissa.ofMantissaAndAccuracy (aligned k) .exact).mantissa =
      aligned k := rfl
  unfold UnpackedFloat.round
  simp only [target, decreaseExponent, widened, Nat.shiftLeft_zero, Nat.cast_zero, Int.sub_zero,
    roundWithAccuracy, first, rounded, second, kept]
  rw [dif_neg (Nat.ne_of_gt (aligned_pos positive))]

theorem succ_sub_one (positive : 0 < k) (small : k + 1 < 2 ^ 53) :
    ofInt (k + 1 : Nat) - 1 = ofInt k := by
  have next : 0 < k + 1 := Nat.succ_pos k
  have small' : k < 2 ^ 53 := Nat.lt_of_succ_lt small
  obtain ⟨least, -⟩ := place_bounds next small
  have one : (1 : Float).toModel.unpack = .finite .positive (2 ^ 52) (-52) (by decide) := rfl
  have lower : min (place (k + 1)) (-52) = -52 := by omega
  have shift : (place (k + 1) - (-52)).toNat = (k + 1).log2 := by
    unfold place
    omega
  have less : ((aligned (k + 1) * 2 ^ (k + 1).log2 : Nat) : Int) - (2 ^ 52 : Nat) =
      (k * 2 ^ 52 : Nat) := by
    rw [aligned_mul next small]
    omega
  have above : compare ((k * 2 ^ 52 : Nat) : Int) 0 = .gt := Int.compare_eq_gt.2 (by omega)
  have difference : UnpackedFloat.sub Format.binary64 (ofInt (k + 1 : Nat)).toModel.unpack
      (1 : Float).toModel.unpack =
        .finite .positive (aligned k) (place k) (aligned_pos positive) := by
    rw [unpack_ofInt next small, one]
    simp only [UnpackedFloat.sub, decreaseExponent, lower, shift, Nat.shiftLeft_eq, Sign.apply,
      Int.sub_self, Int.toNat_zero, Nat.pow_zero, Nat.mul_one, less, UnpackedFloat.normalize,
      above, Int.toNat_natCast]
    exact round_exact positive small'
  change Float.ofModel (.pack (UnpackedFloat.sub Format.binary64
    (ofInt (k + 1 : Nat)).toModel.unpack (1 : Float).toModel.unpack)) = _
  rw [difference, pack_ofInt positive small']

/-- The integers up to 2^53 are counted down exactly. -/
theorem ofInt_sub_one (positive : 0 < k) (small : k ≤ 2 ^ 53) :
    ofInt k - 1 = ofInt (k - 1 : Nat) := by
  by_cases one : k = 1
  · subst one
    decide +kernel
  by_cases last : k = 2 ^ 53
  · subst last
    decide +kernel
  · have counted := succ_sub_one (k := k - 1) (by omega) (by omega)
    rwa [Nat.sub_add_cancel positive] at counted

end Subtraction

section Integers

variable {k : Nat}

theorem zero_lt_ofInt_iff (small : k < 2 ^ 53) : 0 < ofInt k ↔ 0 < k := by
  by_cases positive : 0 < k
  · have zero : (0 : Float).toModel.unpack = .zero .positive := rfl
    refine iff_of_true (decide_eq_true ?_) positive
    change UnpackedFloat.lt (0 : Float).toModel.unpack (ofInt k).toModel.unpack = true
    rw [zero, unpack_ofInt positive small]
    rfl
  · obtain rfl : k = 0 := by omega
    decide +kernel

theorem isNaN_ofInt (small : k ≤ 2 ^ 53) : (ofInt k).isNaN = false := by
  by_cases none : k = 0
  · subst none
    decide +kernel
  by_cases last : k = 2 ^ 53
  · subst last
    decide +kernel
  · change UnpackedFloat.isNaN (ofInt k).toModel.unpack = false
    rw [unpack_ofInt (Nat.pos_of_ne_zero none) (by omega)]
    rfl

theorem isFinite_ofInt (small : k ≤ 2 ^ 53) : isFinite (ofInt k) = true := by
  by_cases none : k = 0
  · subst none
    decide +kernel
  by_cases last : k = 2 ^ 53
  · subst last
    decide +kernel
  · have positive := Nat.pos_of_ne_zero none
    have small' : k < 2 ^ 53 := by omega
    obtain ⟨low, high⟩ := aligned_bounds positive small'
    obtain ⟨least, most⟩ := place_bounds positive small'
    have bits := toBits_ofInt positive small'
    simp only [fractionUnit] at bits
    refine decide_eq_true ?_
    simp only [magnitude, signUnit, infinite, fractionUnit]
    omega

theorem fraction_value (s : Scaled) :
    (s.fraction.1 : ℚ) / s.fraction.2 = s.significand * 2 ^ s.exponent ∧ 0 < s.fraction.2 := by
  unfold Scaled.fraction
  cases s.exponent with
  | ofNat e => simp
  | negSucc e => simp [zpow_negSucc, div_eq_mul_inv]

/-- A float that equals a positive integer is that integer as a float. -/
theorem eq_ofInt_of_equalsInt {x : Float} (positive : 0 < k) (same : equalsInt x k = true) :
    x = ofInt k := by
  simp only [equalsInt, Bool.and_eq_true, beq_iff_eq] at same
  obtain ⟨finite, same⟩ := same
  obtain ⟨value, below⟩ := fraction_value (decode (magnitude x))
  have product : 0 < (k : Int) * (decode (magnitude x)).fraction.2 := by positivity
  have plus : isNegative x = false := by
    refine Bool.eq_false_of_not_eq_true fun negative => ?_
    simp only [fraction, negative, ↓reduceIte] at same
    omega
  have whole : (decode (magnitude x)).fraction.1 = k * (decode (magnitude x)).fraction.2 := by
    simp only [fraction, plus, Bool.false_eq_true, ↓reduceIte] at same
    exact_mod_cast same
  have nonzero : 0 < magnitude x := by
    refine Nat.pos_of_ne_zero fun zero => ?_
    have none : (decode (magnitude x)).fraction.1 = 0 := by
      rw [zero]
      rfl
    rw [none] at whole
    exact absurd whole (Nat.ne_of_lt (Nat.mul_pos positive below))
  have exact' : (k : ℚ) / (1 : Nat) =
      (decode (magnitude x)).significand * 2 ^ (decode (magnitude x)).exponent := by
    have below' : ((decode (magnitude x)).fraction.2 : ℚ) ≠ 0 := by
      exact_mod_cast Nat.ne_of_gt below
    rw [← value, whole, Nat.cast_mul, mul_div_cancel_right₀ _ below', Nat.cast_one, div_one]
  have near := nearest_decode nonzero (of_decide_eq_true finite) Nat.one_pos exact'
  rw [← ofMagnitude_magnitude x, plus, ← near, ofInt, Int.natAbs_natCast]
  congr 1

end Integers

end EventFlow.Number
