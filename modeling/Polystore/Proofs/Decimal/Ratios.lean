import Mathlib.Algebra.Order.Field.Power
import Mathlib.Algebra.Order.Field.Rat
import Mathlib.Tactic.FieldSimp
import Mathlib.Tactic.Linarith
import Mathlib.Tactic.Positivity
import Mathlib.Tactic.Ring
import Polystore.Decimal.Rounding

/-! Ratios as rational numbers: what scaling, comparing and rounding them means. -/

namespace Polystore.Decimal

namespace Ratio

/-- The rational number that a ratio stands for. -/
def value (r : Ratio) : ℚ := r.num / r.den

/-- Whether a ratio stands for a number. -/
def Proper (r : Ratio) : Prop := 0 < r.den

variable {r s : Ratio}

theorem Proper.den_pos (h : r.Proper) : (0 : ℚ) < r.den := Nat.cast_pos.mpr h

theorem Proper.value_mul_den (h : r.Proper) : r.value * r.den = r.num :=
  div_mul_cancel₀ _ h.den_pos.ne'

-----------------------------------------------------------------------------------------
-- Scaling and comparing
-----------------------------------------------------------------------------------------

theorem Proper.scale (h : r.Proper) {base : Nat} (positive : 0 < base) (power : Int)
    : (r.scale base power).Proper := by
  unfold Proper Ratio.scale
  split
  · exact h
  · exact Nat.mul_pos h (Nat.pow_pos positive)

/-- Scaling multiplies by a power. -/
theorem value_scale {base : Nat} (positive : 0 < base) (power : Int) (r : Ratio)
    : (r.scale base power).value = r.value * (base : ℚ) ^ power := by
  have some : (base : ℚ) ≠ 0 := by positivity
  unfold scale value
  split
  next up =>
    obtain ⟨n, rfl⟩ := Int.eq_ofNat_of_zero_le up
    simp [div_mul_eq_mul_div]
  next down =>
    obtain ⟨n, is⟩ := Int.eq_ofNat_of_zero_le (by omega : 0 ≤ -power)
    obtain rfl : power = -n := by omega
    rw [zpow_neg, Int.neg_neg, Int.toNat_natCast, zpow_natCast, Nat.pow_eq]
    push_cast
    field_simp

theorem le_iff (hr : r.Proper) (hs : s.Proper) : r.le s = true ↔ r.value ≤ s.value := by
  rw [le, decide_eq_true_iff, value, value, div_le_div_iff₀ hr.den_pos hs.den_pos]
  exact_mod_cast Iff.rfl

theorem lt_iff (hr : r.Proper) (hs : s.Proper) : r.lt s = true ↔ r.value < s.value := by
  rw [lt, decide_eq_true_iff, value, value, div_lt_div_iff₀ hr.den_pos hs.den_pos]
  exact_mod_cast Iff.rfl

-----------------------------------------------------------------------------------------
-- Rounding
-----------------------------------------------------------------------------------------

/-- The nearest whole number to a quotient is no more than a half away. -/
theorem roundDiv_near {den : Nat} (positive : 0 < den) (num : Nat)
    : 2 * num ≤ 2 * (roundDiv num den * den) + den
      ∧ 2 * (roundDiv num den * den) ≤ 2 * num + den
      ∧ (roundDiv num den % 2 = 1
          → 2 * num < 2 * (roundDiv num den * den) + den
            ∧ 2 * (roundDiv num den * den) < 2 * num + den) := by
  have split : num / den * den + num % den = num := Nat.div_add_mod' num den
  have less := Nat.mod_lt num positive
  have next : (num / den + 1) * den = num / den * den + den := Nat.succ_mul ..
  unfold roundDiv
  dsimp only
  split_ifs <;> (try rw [next]) <;> omega

/-- A whole number is nearest to a rational one: no more than a half away, and less if it is odd. -/
structure Nearest (n : Nat) (x : ℚ) : Prop where
  near : |(n : ℚ) - x| ≤ 1 / 2
  inside : n % 2 = 1 → |(n : ℚ) - x| < 1 / 2

/-- Rounding gives a nearest whole number. -/
theorem round_nearest (h : r.Proper) : Nearest r.round r.value := by
  obtain ⟨below, above, inside⟩ := roundDiv_near h r.num
  have positive := h.den_pos
  have is := h.value_mul_den
  constructor
  · have low : (2 * r.num : ℚ) ≤ 2 * (r.round * r.den) + r.den := by exact_mod_cast below
    have high : (2 * (r.round * r.den) : ℚ) ≤ 2 * r.num + r.den := by exact_mod_cast above
    rw [abs_le]
    constructor <;> nlinarith
  · intro odd
    have low : (2 * r.num : ℚ) < 2 * (r.round * r.den) + r.den := by exact_mod_cast (inside odd).1
    have high : (2 * (r.round * r.den) : ℚ) < 2 * r.num + r.den := by exact_mod_cast (inside odd).2
    rw [abs_lt]
    constructor <;> nlinarith

/-- There is one nearest whole number: of two neighbours, one is odd. -/
theorem Nearest.unique {n m : Nat} {x : ℚ} (hn : Nearest n x) (hm : Nearest m x) : n = m := by
  wlog less : n < m generalizing n m
  · rcases lt_trichotomy n m with below | is | above
    · exact this hn hm below
    · exact is
    · exact (this hm hn above).symm
  have apart : (n : ℚ) + 1 ≤ m := by exact_mod_cast less
  have first := abs_le.mp hn.near
  have second := abs_le.mp hm.near
  obtain rfl : m = n + 1 := by
    have : (m : ℚ) ≤ n + 1 := by linarith
    exact le_antisymm (by exact_mod_cast this) less
  push_cast at *
  rcases Nat.mod_two_eq_zero_or_one n with even | odd
  · have inside := abs_lt.mp (hm.inside (by omega))
    push_cast at inside
    linarith
  · have inside := abs_lt.mp (hn.inside odd)
    linarith

theorem Nearest.round_eq (h : r.Proper) {n : Nat} (near : Nearest n r.value) : r.round = n :=
  (round_nearest h).unique near

/-- The floor is the whole number just below. -/
theorem floor_bounds (h : r.Proper) : (r.floor : ℚ) ≤ r.value ∧ r.value < r.floor + 1 := by
  have positive := h.den_pos
  rw [value, le_div_iff₀ positive, div_lt_iff₀ positive]
  have split : r.num / r.den * r.den + r.num % r.den = r.num := Nat.div_add_mod' ..
  have less := Nat.mod_lt r.num h
  have next : (r.num / r.den + 1) * r.den = r.num / r.den * r.den + r.den := Nat.succ_mul ..
  constructor
  · exact_mod_cast (by omega : r.num / r.den * r.den ≤ r.num)
  · exact_mod_cast (by omega : r.num < (r.num / r.den + 1) * r.den)

-----------------------------------------------------------------------------------------
-- Powers below a ratio
-----------------------------------------------------------------------------------------

theorem num_ne_zero (some : 0 < r.value) : r.num ≠ 0 := by
  intro zero
  simp [value, zero] at some

/-- The binary logarithms of both parts bound a ratio. -/
theorem value_bounds (h : r.Proper) (some : 0 < r.value)
    : (2 : ℚ) ^ ((r.num.log2 : Int) - r.den.log2 - 1) < r.value
      ∧ r.value < 2 ^ ((r.num.log2 : Int) - r.den.log2 + 1) := by
  have positive := h.den_pos
  have numLow : (2 : ℚ) ^ r.num.log2 ≤ r.num := by
    exact_mod_cast Nat.log2_self_le (num_ne_zero some)
  have numHigh : (r.num : ℚ) < 2 ^ (r.num.log2 + 1) := by exact_mod_cast Nat.lt_log2_self
  have denLow : (2 : ℚ) ^ r.den.log2 ≤ r.den := by
    exact_mod_cast Nat.log2_self_le (Nat.pos_iff_ne_zero.mp h)
  have denHigh : (r.den : ℚ) < 2 ^ (r.den.log2 + 1) := by exact_mod_cast Nat.lt_log2_self
  have quotient (a b : Nat) : (2 : ℚ) ^ ((a : Int) - b) = 2 ^ a / 2 ^ b := by
    rw [zpow_sub₀ two_ne_zero, zpow_natCast, zpow_natCast]
  constructor
  · calc
      (2 : ℚ) ^ ((r.num.log2 : Int) - r.den.log2 - 1) = 2 ^ r.num.log2 / 2 ^ (r.den.log2 + 1) := by
        rw [← quotient]
        push_cast
        ring_nf
      _ < r.num / r.den := by
        rw [div_lt_div_iff₀ (by positivity) positive]
        nlinarith [pow_pos (two_pos : (0 : ℚ) < 2) r.num.log2]
  · calc
      (r.num : ℚ) / r.den < 2 ^ (r.num.log2 + 1) / 2 ^ r.den.log2 := by
        rw [div_lt_div_iff₀ positive (by positivity)]
        nlinarith [pow_pos (two_pos : (0 : ℚ) < 2) r.den.log2]
      _ = (2 : ℚ) ^ ((r.num.log2 : Int) - r.den.log2 + 1) := by
        rw [← quotient]
        push_cast
        ring_nf

/-- Powers compare as the logarithms of their bases do, for which two powers give a bound. -/
theorem pow_le_pow_of_bound {a b p q x y : Nat} (some : 0 < b) (positive : p ≠ 0)
    (bound : a ^ p ≤ b ^ q) (le : q * x ≤ p * y)
    : a ^ x ≤ b ^ y := by
  refine (Nat.pow_le_pow_iff_left positive).mp ?_
  calc
    (a ^ x) ^ p = (a ^ p) ^ x := by rw [← pow_mul, ← pow_mul, mul_comm]
    _ ≤ (b ^ q) ^ x := Nat.pow_le_pow_left bound x
    _ = b ^ (q * x) := (pow_mul ..).symm
    _ ≤ b ^ (p * y) := Nat.pow_le_pow_right some le
    _ = (b ^ y) ^ p := by rw [← pow_mul, mul_comm]

/-- A power of ten is below a power of two if its exponent is one below the common estimate. -/
theorem ten_pow_le_two_pow {k m : Int} (least : -20000 ≤ m) (most : m ≤ 90000)
    (estimate : 100000 * (k + 1) ≤ 30103 * m)
    : (10 : ℚ) ^ k ≤ 2 ^ m := by
  rcases le_or_gt 0 m with up | down
  · obtain ⟨m, rfl⟩ := Int.eq_ofNat_of_zero_le up
    rcases le_or_gt k 0 with small | large
    · calc
        (10 : ℚ) ^ k ≤ 10 ^ (0 : Int) := zpow_le_zpow_right₀ (by norm_num) small
        _ ≤ 2 ^ (m : Int) := by
          rw [zpow_zero, zpow_natCast]
          exact one_le_pow₀ (by norm_num)
    · obtain ⟨k, rfl⟩ := Int.eq_ofNat_of_zero_le large.le
      rw [zpow_natCast, zpow_natCast]
      have bound : 10 ^ 59 ≤ 2 ^ 196 := by norm_num
      exact_mod_cast pow_le_pow_of_bound (by decide) (by decide) bound (by omega)
  · obtain ⟨n, rfl⟩ : ∃ n : Nat, m = -n := ⟨(-m).toNat, by omega⟩
    obtain ⟨j, rfl⟩ : ∃ j : Nat, k = -j := ⟨(-k).toNat, by omega⟩
    rw [zpow_neg, zpow_neg, zpow_natCast, zpow_natCast]
    have bound : 2 ^ 93 ≤ 10 ^ 28 := by norm_num
    refine inv_anti₀ (by positivity) ?_
    exact_mod_cast pow_le_pow_of_bound (by decide) (by decide) bound (by omega : 28 * n ≤ 93 * j)

/-- Raising a guess keeps a power of ten below a ratio, by induction on the steps. -/
theorem raise_le (h : r.Proper) {steps : Nat} {guess : Int} (below : (10 : ℚ) ^ guess ≤ r.value)
    : (10 : ℚ) ^ (r.raise steps guess) ≤ r.value := by
  induction steps generalizing guess with
  | zero => exact below
  | succ steps ih =>
      rw [raise]
      split
      next le =>
        refine ih ?_
        have one : Proper ⟨1, 1⟩ := Nat.one_pos
        rw [le_iff (one.scale (by decide) _) h, value_scale (by decide)] at le
        simpa [value] using le
      · exact below

/-- The power of ten of the decimal exponent is at most the ratio. -/
theorem ten_pow_decimalExponent_le (h : r.Proper) {least most : Int} (low : -2000 ≤ least)
    (high : most ≤ 2000) (above : 2 ^ least ≤ r.value) (below : r.value ≤ 2 ^ most)
    : (10 : ℚ) ^ r.decimalExponent ≤ r.value := by
  have two : (1 : ℚ) < 2 := by norm_num
  obtain ⟨lower, upper⟩ := value_bounds h ((zpow_pos two_pos least).trans_le above)
  have floor := (zpow_lt_zpow_iff_right₀ two).mp (above.trans_lt upper)
  have ceiling := (zpow_lt_zpow_iff_right₀ two).mp (lower.trans_le below)
  refine raise_le h (le_trans (ten_pow_le_two_pow (by omega) (by omega) ?_) lower.le)
  rw [Int.fdiv_eq_ediv_of_nonneg _ (by norm_num)]
  omega

end Ratio

end Polystore.Decimal
