import EventFlow.Number.Shortest
import Mathlib.Algebra.Order.Field.Power
import Mathlib.Data.Int.Log
import Mathlib.Data.Rat.Floor
import Mathlib.Tactic.FieldSimp
import Mathlib.Tactic.Linarith

/-!
Rounding to the nearest float, and what it depends on.

* `nearest_congr`: equal fractions have the same nearest magnitude;
* `nearest_decode`: a finite magnitude is nearest to the number that it stands for;
* `nearestDecimal_eq`: a decimal has the nearest magnitude of any fraction that is equal to it.
-/

namespace EventFlow.Number

section Fractions

theorem unscale_pos {den : Nat} (num : Nat) (positive : 0 < den) (e : Int) :
    0 < (unscale num den e).2 := by
  cases e with
  | ofNat e => exact Nat.mul_pos positive (Nat.pow_pos (by decide))
  | negSucc e => exact positive

theorem unscale_ratio (num den : Nat) (e : Int) :
    ((unscale num den e).1 : ℚ) / (unscale num den e).2 = num / den / 2 ^ e := by
  cases e with
  | ofNat e => simp [unscale, div_div]
  | negSucc e =>
    simp only [unscale, Nat.pow_eq, Nat.cast_mul, Nat.cast_pow, Nat.cast_ofNat, zpow_negSucc,
      div_inv_eq_mul]
    ring

theorem unscale_mul (num den c : Nat) (e : Int) :
    unscale (num * c) (den * c) e = ((unscale num den e).1 * c, (unscale num den e).2 * c) := by
  cases e with
  | ofNat e => simp only [unscale, Nat.mul_right_comm]
  | negSucc e => simp only [unscale, Nat.mul_right_comm]

end Fractions

section Logarithm

variable {num den : Nat}

theorem two_zpow_log2_le {n : Nat} (positive : 0 < n) : (2 : ℚ) ^ (n.log2 : Int) ≤ n := by
  rw [zpow_natCast]
  exact_mod_cast Nat.log2_self_le (by omega)

theorem lt_two_zpow_log2 (n : Nat) : (n : ℚ) < 2 ^ ((n.log2 : Int) + 1) := by
  have bound : n < 2 ^ (n.log2 + 1) := Nat.lt_log2_self
  rw [← Nat.cast_one, ← Nat.cast_add, zpow_natCast]
  exact_mod_cast bound

/-- The logarithm of a fraction, rounded down. -/
theorem log2Floor_eq (above : 0 < num) (below : 0 < den) :
    log2Floor num den = Int.log 2 ((num : ℚ) / den) := by
  have den' : (0 : ℚ) < den := by exact_mod_cast below
  have ratio : (0 : ℚ) < num / den := by positivity
  have base : 1 < 2 := Nat.one_lt_two
  have two : (2 : ℚ) ≠ 0 := two_ne_zero
  have low : (num.log2 : Int) - den.log2 - 1 ≤ Int.log 2 ((num : ℚ) / den) := by
    rw [← Int.zpow_le_iff_le_log base ratio, Nat.cast_ofNat, le_div_iff₀ den']
    calc (2 : ℚ) ^ ((num.log2 : Int) - den.log2 - 1) * den
        ≤ 2 ^ ((num.log2 : Int) - den.log2 - 1) * 2 ^ ((den.log2 : Int) + 1) := by
          gcongr
          exact (lt_two_zpow_log2 den).le
      _ = 2 ^ (num.log2 : Int) := by
          rw [← zpow_add₀ two]
          congr 1
          omega
      _ ≤ num := two_zpow_log2_le above
  have high : Int.log 2 ((num : ℚ) / den) < (num.log2 : Int) - den.log2 + 1 := by
    rw [← Int.lt_zpow_iff_log_lt base ratio, Nat.cast_ofNat, div_lt_iff₀ den']
    calc (num : ℚ) < 2 ^ ((num.log2 : Int) + 1) := lt_two_zpow_log2 num
      _ = 2 ^ ((num.log2 : Int) - den.log2 + 1) * 2 ^ (den.log2 : Int) := by
          rw [← zpow_add₀ two]
          congr 1
          omega
      _ ≤ 2 ^ ((num.log2 : Int) - den.log2 + 1) * den := by
          gcongr
          exact two_zpow_log2_le below
  have guess : (unscale num den (num.log2 - den.log2)).2 ≤
      (unscale num den (num.log2 - den.log2)).1 ↔
        (num.log2 : Int) - den.log2 ≤ Int.log 2 ((num : ℚ) / den) := by
    have positive : (0 : ℚ) < (unscale num den (num.log2 - den.log2)).2 := by
      exact_mod_cast unscale_pos num below _
    rw [← Int.zpow_le_iff_le_log base ratio, ← Nat.cast_le (α := ℚ), ← one_le_div positive,
      unscale_ratio, one_le_div (by positivity), Nat.cast_ofNat]
  unfold log2Floor
  simp only
  split
  · rename_i h
    have := guess.mp h
    omega
  · rename_i h
    have := mt guess.mpr h
    omega

end Logarithm

section Nearest

variable {a b c d : Nat}

theorem roundHalfEven_mul (num den : Nat) (positive : 0 < c) :
    roundHalfEven (num * c) (den * c) = roundHalfEven num den := by
  have twice : 2 * (num % den * c) = 2 * (num % den) * c := by ring
  have more : den * c < 2 * (num % den) * c ↔ den < 2 * (num % den) :=
    Nat.mul_lt_mul_right positive
  have half : 2 * (num % den) * c = den * c ↔ 2 * (num % den) = den :=
    Nat.mul_left_inj (by omega)
  simp only [roundHalfEven, Nat.mul_div_mul_right num den positive, Nat.mul_mod_mul_right, twice]
  simp only [Bool.or_eq_true, Bool.and_eq_true, decide_eq_true_eq, beq_iff_eq, more, half]

/-- A common factor of a fraction does not count. -/
theorem nearest_mul (num : Nat) {den : Nat} (below : 0 < den) (positive : 0 < c) :
    nearest (num * c) (den * c) = nearest num den := by
  by_cases zero : num = 0
  · simp [nearest, zero]
  · have above : 0 < num := by omega
    have product : num * c ≠ 0 := Nat.mul_ne_zero zero (by omega)
    have c' : (c : ℚ) ≠ 0 := by exact_mod_cast (by omega : c ≠ 0)
    have log : log2Floor (num * c) (den * c) = log2Floor num den := by
      rw [log2Floor_eq (by omega) (Nat.mul_pos below positive), log2Floor_eq above below,
        Nat.cast_mul, Nat.cast_mul, mul_div_mul_right _ _ c']
    simp only [nearest, zero, product, ↓reduceIte, log, unscale_mul, roundHalfEven_mul _ _ positive]

/-- Equal fractions have the same nearest magnitude. -/
theorem nearest_congr (hb : 0 < b) (hd : 0 < d) (same : (a : ℚ) / b = c / d) :
    nearest a b = nearest c d := by
  have hb' : (b : ℚ) ≠ 0 := by exact_mod_cast (by omega : b ≠ 0)
  have hd' : (d : ℚ) ≠ 0 := by exact_mod_cast (by omega : d ≠ 0)
  have cross : a * d = c * b := by
    rw [div_eq_div_iff hb' hd'] at same
    exact_mod_cast same
  calc nearest a b = nearest (a * d) (b * d) := (nearest_mul a hb hd).symm
    _ = nearest (c * b) (d * b) := by rw [cross, Nat.mul_comm b d]
    _ = nearest c d := nearest_mul c hd hb

/-- What is beyond the range has the magnitude of infinity. -/
theorem nearest_large (hb : 0 < b) (large : (2 : ℚ) ^ (1200 : Int) ≤ a / b) :
    nearest a b = infinite := by
  have positive : (0 : ℚ) < a / b := lt_of_lt_of_le (by positivity) large
  have ha : a ≠ 0 := by
    rintro rfl
    simp at positive
  have log : 1200 ≤ log2Floor a b := by
    rw [log2Floor_eq (by omega) hb, ← Int.zpow_le_iff_le_log Nat.one_lt_two positive]
    exact_mod_cast large
  have exponent : 2222 ≤ (max (log2Floor a b - 52) (-1074) + 1074).toNat := by omega
  simp only [nearest, ha, ↓reduceIte, infinite, fractionUnit]
  omega

/-- What is closer to zero than to the least magnitude is rounded to zero. -/
theorem nearest_small (hb : 0 < b) (small : (a : ℚ) / b < 2 ^ (-1076 : Int)) : nearest a b = 0 := by
  by_cases zero : a = 0
  · simp [nearest, zero]
  · have ha : (0 : ℚ) < a := by exact_mod_cast (by omega : 0 < a)
    have hb' : (0 : ℚ) < b := by exact_mod_cast hb
    have positive : (0 : ℚ) < a / b := div_pos ha hb'
    have log : log2Floor a b < -1076 := by
      rw [log2Floor_eq (by omega) hb, ← Int.lt_zpow_iff_log_lt Nat.one_lt_two positive]
      exact_mod_cast small
    have least : max (log2Floor a b - 52) (-1074) = -1074 := by omega
    have den : (0 : ℚ) < (unscale a b (-1074)).2 := by exact_mod_cast unscale_pos a hb _
    have low : 4 * (unscale a b (-1074)).1 < (unscale a b (-1074)).2 := by
      have scaled : 4 * ((unscale a b (-1074)).1 : ℚ) / (unscale a b (-1074)).2 < 1 := by
        rw [mul_div_assoc, unscale_ratio]
        calc 4 * ((a : ℚ) / b / 2 ^ (-1074 : Int))
            < 4 * (2 ^ (-1076 : Int) / 2 ^ (-1074 : Int)) := by gcongr
          _ = 1 := by
            rw [← zpow_sub₀ two_ne_zero]
            norm_num
      rw [div_lt_one den] at scaled
      exact_mod_cast scaled
    have round : roundHalfEven (unscale a b (-1074)).1 (unscale a b (-1074)).2 = 0 := by
      have below : (unscale a b (-1074)).1 < (unscale a b (-1074)).2 := by omega
      simp only [roundHalfEven, Nat.div_eq_of_lt below, Nat.mod_eq_of_lt below]
      rw [if_neg]
      simp only [Nat.zero_mod, Bool.or_eq_true, decide_eq_true_eq, Bool.and_eq_true, beq_iff_eq]
      omega
    simp only [nearest, zero, ↓reduceIte, least, round]
    rfl

/-- A number with at most 53 bits on the grid of its size is not rounded. -/
theorem nearest_exact {m : Nat} {e : Int} (hb : 0 < b) (positive : 0 < m) (bits : m < 2 ^ 53)
    (grid : -1074 ≤ e) (normal : 2 ^ 52 ≤ m ∨ e = -1074) (same : (a : ℚ) / b = m * 2 ^ e) :
    nearest a b = min infinite ((e + 1074).toNat * fractionUnit + m) := by
  have two : (2 : ℚ) ≠ 0 := two_ne_zero
  have hm : (0 : ℚ) < m := by exact_mod_cast positive
  have ratio : (0 : ℚ) < a / b := by
    rw [same]
    positivity
  have ha : a ≠ 0 := by
    rintro rfl
    simp at ratio
  have high : log2Floor a b < e + 53 := by
    rw [log2Floor_eq (by omega) hb, ← Int.lt_zpow_iff_log_lt Nat.one_lt_two ratio, same,
      Nat.cast_ofNat, zpow_add₀ two, mul_comm]
    gcongr
    exact_mod_cast bits
  have low (large : 2 ^ 52 ≤ m) : e + 52 ≤ log2Floor a b := by
    rw [log2Floor_eq (by omega) hb, ← Int.zpow_le_iff_le_log Nat.one_lt_two ratio, same,
      Nat.cast_ofNat, zpow_add₀ two, mul_comm]
    gcongr
    exact_mod_cast large
  have exponent : max (log2Floor a b - 52) (-1074) = e := by
    rcases normal with large | least
    · have := low large
      omega
    · omega
  have round : roundHalfEven (unscale a b e).1 (unscale a b e).2 = m := by
    have den := unscale_pos a hb e
    have den' : ((unscale a b e).2 : ℚ) ≠ 0 := by exact_mod_cast (by omega : (unscale a b e).2 ≠ 0)
    have product : (unscale a b e).1 = m * (unscale a b e).2 := by
      have quotient : ((unscale a b e).1 : ℚ) / (unscale a b e).2 = m := by
        rw [unscale_ratio, same, mul_div_cancel_right₀ _ (zpow_ne_zero e two)]
      rw [div_eq_iff den'] at quotient
      exact_mod_cast quotient
    simp only [roundHalfEven, product, Nat.mul_div_cancel m den, Nat.mul_mod_left]
    rw [if_neg]
    simp only [Bool.or_eq_true, decide_eq_true_eq, Bool.and_eq_true, beq_iff_eq]
    omega
  simp only [nearest, ha, ↓reduceIte, exponent, round]

end Nearest

section Decoding

/-- A finite magnitude is the one nearest to the number that it stands for. -/
theorem nearest_decode {bits num den : Nat} (positive : 0 < bits) (finite : bits < infinite)
    (below : 0 < den)
    (same : (num : ℚ) / den = (decode bits).significand * 2 ^ (decode bits).exponent) :
    nearest num den = bits := by
  have limit : bits < 0x7ff * 0x10000000000000 := finite
  by_cases subnormal : bits < fractionUnit
  · have small : bits < 0x10000000000000 := subnormal
    simp only [decode, subnormal, ↓reduceIte] at same
    rw [nearest_exact below positive (by omega) (by decide) (Or.inr rfl) same]
    simp only [infinite, fractionUnit]
    omega
  · have large : ¬bits < 0x10000000000000 := subnormal
    simp only [decode, subnormal, ↓reduceIte] at same
    have low : 2 ^ 52 ≤ bits % fractionUnit + fractionUnit := by
      simp only [fractionUnit]
      omega
    rw [nearest_exact below (by omega) (by simp only [fractionUnit]; omega)
      (by simp only [fractionUnit]; omega) (Or.inl low) same]
    simp only [infinite, fractionUnit]
    omega

end Decoding

section Decimals

theorem eight_pow_le (k : Nat) : (2 : ℚ) ^ (3 * k) ≤ 10 ^ k := by
  rw [pow_mul]
  gcongr
  norm_num

/-- Beyond this power of ten every number is too large. -/
theorem large_of_power {n k : Nat} (positive : 0 < n) (beyond : 400 < k) :
    (2 : ℚ) ^ (1200 : Int) ≤ n * 10 ^ k := by
  have one : (1 : ℚ) ≤ n := by exact_mod_cast positive
  calc (2 : ℚ) ^ (1200 : Int) ≤ 2 ^ (3 * k) := by
        rw [← zpow_natCast]
        exact zpow_le_zpow_right₀ one_le_two (by omega)
    _ ≤ 10 ^ k := eight_pow_le k
    _ ≤ n * 10 ^ k := le_mul_of_one_le_left (by positivity) one

/-- Beyond this power of ten every quotient is too small. -/
theorem small_of_power {n k : Nat} (beyond : n.log2 + 1200 < 3 * k) :
    (n : ℚ) / 10 ^ k < 2 ^ (-1076 : Int) := by
  rw [div_lt_iff₀ (by positivity)]
  calc (n : ℚ) < 2 ^ ((n.log2 : Int) + 1) := lt_two_zpow_log2 n
    _ ≤ 2 ^ ((-1076 : Int) + (3 * k : Nat)) := zpow_le_zpow_right₀ one_le_two (by omega)
    _ = 2 ^ (-1076 : Int) * 2 ^ (3 * k) := by
        rw [zpow_add₀ two_ne_zero, zpow_natCast]
    _ ≤ 2 ^ (-1076 : Int) * 10 ^ k := by
        gcongr
        exact eight_pow_le k

/-- A decimal has the nearest magnitude of any fraction that is equal to it. -/
theorem nearestDecimal_eq {n a b : Nat} {k : Int} (hb : 0 < b)
    (same : (n : ℚ) * 10 ^ k = a / b) : nearestDecimal n k = nearest a b := by
  by_cases zero : n = 0
  · have hb' : (b : ℚ) ≠ 0 := by exact_mod_cast (by omega : b ≠ 0)
    have none' : a = 0 := by
      rw [zero, Nat.cast_zero, zero_mul, eq_comm, div_eq_zero_iff] at same
      exact_mod_cast same.resolve_right hb'
    simp [nearestDecimal, nearest, zero, none']
  cases k with
  | ofNat k =>
    rw [Int.ofNat_eq_natCast, zpow_natCast] at same
    simp only [nearestDecimal, zero, ↓reduceIte]
    by_cases beyond : 400 < k
    · have large := large_of_power (Nat.pos_of_ne_zero zero) beyond
      rw [same] at large
      rw [if_pos beyond, nearest_large hb large]
    · rw [if_neg beyond]
      refine nearest_congr Nat.one_pos hb ?_
      rw [← same]
      simp
  | negSucc k =>
    rw [zpow_negSucc, ← div_eq_mul_inv] at same
    simp only [nearestDecimal, zero, ↓reduceIte]
    by_cases beyond : n.log2 + 1200 < 3 * (k + 1)
    · have small := small_of_power beyond
      rw [same] at small
      rw [if_pos beyond, nearest_small hb small]
    · rw [if_neg beyond]
      refine nearest_congr (Nat.pow_pos (by decide)) hb ?_
      rw [← same]
      simp

/-- The fraction that a decimal is. -/
theorem exists_fraction (n : Nat) (k : Int) :
    ∃ a b : Nat, 0 < b ∧ (n : ℚ) * 10 ^ k = a / b := by
  cases k with
  | ofNat k => exact ⟨n * 10 ^ k, 1, Nat.one_pos, by simp⟩
  | negSucc k =>
    exact ⟨n, 10 ^ (k + 1), Nat.pow_pos (by decide), by simp [zpow_negSucc, div_eq_mul_inv]⟩

/-- Equal decimals have the same nearest magnitude. -/
theorem nearestDecimal_congr {n m : Nat} {k l : Int} (same : (n : ℚ) * 10 ^ k = m * 10 ^ l) :
    nearestDecimal n k = nearestDecimal m l := by
  obtain ⟨a, b, hb, value⟩ := exists_fraction m l
  rw [nearestDecimal_eq hb value, nearestDecimal_eq hb (same.trans value)]

/-- Zeros at the end of a decimal count as a part of its exponent. -/
theorem nearestDecimal_zeros (n z : Nat) (k : Int) :
    nearestDecimal (n * 10 ^ z) k = nearestDecimal n (k + z) := by
  apply nearestDecimal_congr
  rw [zpow_add₀ (by norm_num), zpow_natCast]
  push_cast
  ring

end Decimals

end EventFlow.Number
