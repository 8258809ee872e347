import Polystore.Decimal.Binary64
import Polystore.Proofs.Decimal.Digits
import Polystore.Proofs.Decimal.Ratios

/-! Doubles are the nearest ones to the ratios that they stand for. Every double has one form, in
which its significand has 53 bits or its exponent is the least, and rounding finds that form.
-/

namespace Polystore.Binary64

open Decimal Ratio

/-- The parts of a finite double in its one form. -/
structure Canonical (significand : Nat) (exponent : Int) : Prop where
  bits : significand < 2 * leastSignificand
  least : minExponent ≤ exponent
  most : exponent ≤ maxExponent
  full : leastSignificand ≤ significand ∨ exponent = minExponent

/-- A rational number is read as a double: the significand is nearest to it in units of the last
place. Below a power of two these units are half as large.
-/
structure ReadAs (significand : Nat) (exponent : Int) (x : ℚ) : Prop where
  nearest : Nearest significand (x / 2 ^ exponent)
  narrow
    : significand = leastSignificand
      → minExponent < exponent → (significand : ℚ) - 1 / 4 ≤ x / 2 ^ exponent

variable {r : Ratio}

theorem leastSignificand_mul (e : Int) : (leastSignificand : ℚ) * 2 ^ e = 2 ^ (e + 52) := by
  have power : (leastSignificand : ℚ) = 2 ^ (52 : Int) := by norm_num [leastSignificand]
  rw [power, ← zpow_add₀ two_ne_zero, add_comm]

/-- The exponent of a ratio leaves 53 bits before the point, unless it is the least one. -/
theorem exists_exponentOf_eq (h : r.Proper) (some : 0 < r.value)
    : ∃ exact : Int,
        exponentOf r = max exact minExponent
        ∧ (2 : ℚ) ^ (exact + 52) ≤ r.value
        ∧ r.value < 2 ^ (exact + 53) := by
  obtain ⟨low, high⟩ := value_bounds h some
  have one : Proper ⟨leastSignificand, 1⟩ := Nat.one_pos
  -- The guess is right or one too large.
  refine ⟨_, rfl, ?_⟩
  set guess : Int := (r.num.log2 : Int) - r.den.log2 - 52 with guessed
  have test : Ratio.lt (r.scale 2 (-guess)) ⟨leastSignificand, 1⟩ = true
      ↔ r.value < 2 ^ (guess + 52) := by
    rw [lt_iff (h.scale (by decide) _) one, value_scale (by decide), ← leastSignificand_mul]
    have positive : (0 : ℚ) < 2 ^ guess := zpow_pos two_pos guess
    simp only [value, Nat.cast_one, div_one, Nat.cast_ofNat, zpow_neg]
    rw [← div_eq_mul_inv, div_lt_iff₀ positive]
  have lower : (2 : ℚ) ^ (guess + 51) < r.value := by
    rw [guessed, show (r.num.log2 : Int) - r.den.log2 - 52 + 51
      = (r.num.log2 : Int) - r.den.log2 - 1 by ring]
    exact low
  have upper : r.value < (2 : ℚ) ^ (guess + 53) := by
    rw [guessed, show (r.num.log2 : Int) - r.den.log2 - 52 + 53
      = (r.num.log2 : Int) - r.den.log2 + 1 by ring]
    exact high
  split
  next less =>
    rw [show guess - 1 + 52 = guess + 51 by ring, show guess - 1 + 53 = guess + 52 by ring]
    exact ⟨lower.le, test.mp less⟩
  next more => exact ⟨not_lt.mp (fun less => more (test.mpr less)), upper⟩

/-- No other exponent does so. -/
theorem exponentOf_eq (h : r.Proper) (some : 0 < r.value) {exponent : Int}
    (least : minExponent ≤ exponent) (below : r.value < 2 * leastSignificand * 2 ^ exponent)
    (above : leastSignificand * 2 ^ exponent ≤ r.value ∨ exponent = minExponent)
    : exponentOf r = exponent := by
  obtain ⟨exact, is, low, high⟩ := exists_exponentOf_eq h some
  have monotone {a b : Int} : (2 : ℚ) ^ a < 2 ^ b ↔ a < b :=
    zpow_lt_zpow_iff_right₀ (by norm_num)
  rw [mul_assoc, leastSignificand_mul, mul_comm, ← zpow_add_one₀ two_ne_zero] at below
  have atMost := monotone.mp (low.trans_lt below)
  rw [is]
  rcases above with above | rfl
  · rw [leastSignificand_mul] at above
    have atLeast := monotone.mp (above.trans_lt high)
    omega
  · omega

/-- What is nearest to a scaled ratio is its rounding. -/
theorem round_scale_eq (h : r.Proper) {exponent : Int} {n : Nat}
    (nearest : Nearest n (r.value / 2 ^ exponent))
    : (r.scale 2 (-exponent)).round = n := by
  refine Nearest.round_eq (h.scale (by decide) _) ?_
  rw [value_scale (by decide), zpow_neg, ← div_eq_mul_inv]
  exact nearest

/-- A positive ratio that is read as a double is rounded to it. -/
theorem ofRatio_eq (h : r.Proper) (some : 0 < r.value) {negative : Bool} {significand : Nat}
    {exponent : Int} (canonical : Canonical significand exponent) (nonzero : significand ≠ 0)
    (reads : ReadAs significand exponent r.value)
    : ofRatio negative r = .finite negative significand exponent := by
  have positive : (0 : ℚ) < 2 ^ exponent := zpow_pos two_pos exponent
  have bits : (significand : ℚ) + 1 ≤ 2 * leastSignificand := by exact_mod_cast canonical.bits
  have near := abs_le.mp reads.nearest.near
  have below : r.value < 2 * leastSignificand * 2 ^ exponent := by
    rw [← div_lt_iff₀ positive]
    linarith
  by_cases full : (leastSignificand : ℚ) * 2 ^ exponent ≤ r.value ∨ exponent = minExponent
  · -- The units of the ratio are those of the double.
    have is := exponentOf_eq h some canonical.least below full
    have rounds := round_scale_eq h reads.nearest
    have fits := canonical.bits
    unfold ofRatio
    simp only [is, rounds]
    rw [if_neg nonzero, if_neg fits.ne, if_pos canonical.most]
  · -- Just below a power of two the units are half as large, and the ratio is rounded up to it.
    rw [not_or, not_le, ← div_lt_iff₀ positive] at full
    obtain ⟨short, more⟩ := full
    have least : leastSignificand ≤ significand := canonical.full.resolve_right more
    have narrow : minExponent < exponent := lt_of_le_of_ne canonical.least (Ne.symm more)
    obtain rfl : significand = leastSignificand := by
      have : (significand : ℚ) < leastSignificand + 1 := by linarith
      exact le_antisymm (Nat.le_of_lt_succ (by exact_mod_cast this)) least
    have above := reads.narrow rfl narrow
    have half : r.value / 2 ^ (exponent - 1) = 2 * (r.value / 2 ^ exponent) := by
      rw [zpow_sub_one₀ two_ne_zero]
      field_simp
    have size : (leastSignificand : ℚ) = 4503599627370496 := by norm_num [leastSignificand]
    have is : exponentOf r = exponent - 1 := by
      refine exponentOf_eq h some (by omega) ?_ (.inl ?_)
      · rw [← div_lt_iff₀ (zpow_pos two_pos _), half]
        linarith
      · rw [← le_div_iff₀ (zpow_pos two_pos _), half]
        linarith
    have rounds : (r.scale 2 (-(exponent - 1))).round = 2 * leastSignificand := by
      refine round_scale_eq h ⟨?_, ?_⟩
      · rw [half, abs_le]
        push_cast
        constructor <;> linarith
      · intro odd
        exact absurd odd (by decide)
    unfold ofRatio
    simp only [is, rounds, if_true]
    rw [if_neg (by decide), sub_add_cancel, if_pos canonical.most]

/-- What is read as a double that is not zero is within the range of doubles. -/
theorem ReadAs.bounds {significand : Nat} {exponent : Int} {x : ℚ}
    (canonical : Canonical significand exponent) (nonzero : significand ≠ 0)
    (reads : ReadAs significand exponent x)
    : (2 : ℚ) ^ (-1075 : Int) ≤ x ∧ x < 2 ^ (1024 : Int) := by
  have positive : (0 : ℚ) < 2 ^ exponent := by positivity
  have two : (1 : ℚ) ≤ 2 := by norm_num
  have least : -1074 ≤ exponent := canonical.least
  have most : exponent ≤ 971 := canonical.most
  have some : (1 : ℚ) ≤ significand := by exact_mod_cast Nat.one_le_iff_ne_zero.mpr nonzero
  have bits : (significand : ℚ) + 1 ≤ 2 ^ (53 : Int) := by exact_mod_cast canonical.bits
  have near := abs_le.mp reads.nearest.near
  have is : x = x / 2 ^ exponent * 2 ^ exponent := (div_mul_cancel₀ _ positive.ne').symm
  constructor
  · calc
      (2 : ℚ) ^ (-1075 : Int) ≤ 2 ^ (exponent - 1) := zpow_le_zpow_right₀ two (by omega)
      _ = 1 / 2 * 2 ^ exponent := by
        rw [zpow_sub_one₀ two_ne_zero]
        ring
      _ ≤ x / 2 ^ exponent * 2 ^ exponent :=
        mul_le_mul_of_nonneg_right (by linarith) positive.le
      _ = x := is.symm
  · calc
      x = x / 2 ^ exponent * 2 ^ exponent := is
      _ < 2 ^ (53 : Int) * 2 ^ exponent := mul_lt_mul_of_pos_right (by linarith) positive
      _ = 2 ^ (53 + exponent) := (zpow_add₀ two_ne_zero ..).symm
      _ ≤ 2 ^ (1024 : Int) := zpow_le_zpow_right₀ two (by omega)

/-- A decimal that is read as a double is rounded to it. -/
theorem ofDecimal_eq {negative : Bool} {significand : Nat} {exponent : Int}
    (canonical : Canonical significand exponent) (nonzero : significand ≠ 0) {units : Nat}
    {power : Int} (reads : ReadAs significand exponent (units * 10 ^ power))
    : ofDecimal negative units power = .finite negative significand exponent := by
  obtain ⟨low, high⟩ := reads.bounds canonical nonzero
  have some : units ≠ 0 := by
    rintro rfl
    rw [Nat.cast_zero, zero_mul] at low
    exact absurd low (not_le.mpr (zpow_pos two_pos _))
  obtain ⟨least, most⟩ := digits_bounds some
  unfold ofDecimal
  dsimp only
  rw [if_neg, if_neg]
  · have proper : (Ratio.mk units 1).Proper := Nat.one_pos
    have value : (Ratio.scale 10 power ⟨units, 1⟩).value = units * 10 ^ power := by
      rw [value_scale (by decide)]
      simp [Ratio.value]
    refine ofRatio_eq (proper.scale (by decide) power) ?_ canonical nonzero (value ▸ reads)
    rw [value]
    exact (zpow_pos two_pos _).trans_le low
  · intro large
    have bound : (10 : ℚ) ^ (-310 : Int) ≤ 2 ^ (-1024 : Int) :=
      ten_pow_le_two_pow (by norm_num) (by norm_num) (by norm_num)
    have digits : (10 : ℚ) ^ (310 : Int) ≤ units * 10 ^ power := by
      calc
        (10 : ℚ) ^ (310 : Int) ≤ 10 ^ (((digits units).length - 1 : Nat) + power) :=
          zpow_le_zpow_right₀ (by norm_num) (by omega)
        _ = 10 ^ ((digits units).length - 1) * 10 ^ power := by
          rw [zpow_add₀ (by norm_num), zpow_natCast]
        _ ≤ units * 10 ^ power := by
          gcongr
          exact_mod_cast least
    rw [zpow_neg, zpow_neg, inv_le_inv₀ (by positivity) (by positivity)] at bound
    exact absurd (digits.trans_lt high) (not_lt.mpr bound)
  · rintro (none | small)
    · exact some none
    · have bound : (10 : ℚ) ^ (-331 : Int) ≤ 2 ^ (-1075 : Int) :=
        ten_pow_le_two_pow (by norm_num) (by norm_num) (by norm_num)
      have digits : units * (10 : ℚ) ^ power < 10 ^ (-331 : Int) := by
        calc
          units * (10 : ℚ) ^ power < 10 ^ (digits units).length * 10 ^ power := by
            gcongr
            exact_mod_cast most
          _ = 10 ^ ((digits units).length + power) := by
            rw [zpow_add₀ (by norm_num), zpow_natCast]
          _ ≤ 10 ^ (-331 : Int) := zpow_le_zpow_right₀ (by norm_num) (by omega)
      exact absurd (bound.trans low) (not_le.mpr digits)

-----------------------------------------------------------------------------------------
-- The form of what is rounded
-----------------------------------------------------------------------------------------

/-- A ratio in units of the last place is rounded to 53 bits, or to the power of two behind them. -/
theorem round_scale_bounds (h : r.Proper) (some : 0 < r.value)
    : (r.scale 2 (-exponentOf r)).round ≤ 2 * leastSignificand
      ∧ (leastSignificand ≤ (r.scale 2 (-exponentOf r)).round ∨ exponentOf r = minExponent) := by
  obtain ⟨exact, is, low, high⟩ := exists_exponentOf_eq h some
  have near := abs_le.mp (round_nearest (h.scale (by decide : 0 < 2) (-exponentOf r))).near
  rw [value_scale (by decide), Nat.cast_ofNat, zpow_neg, ← div_eq_mul_inv] at near
  have positive : (0 : ℚ) < 2 ^ exponentOf r := zpow_pos two_pos _
  have two : (1 : ℚ) ≤ 2 := by norm_num
  have below : r.value / 2 ^ exponentOf r < 2 * leastSignificand := by
    rw [div_lt_iff₀ positive, mul_assoc, leastSignificand_mul, mul_comm,
      ← zpow_add_one₀ two_ne_zero]
    exact high.trans_le (zpow_le_zpow_right₀ two (by omega))
  constructor
  · have : ((r.scale 2 (-exponentOf r)).round : ℚ) < 2 * leastSignificand + 1 := by linarith
    exact Nat.le_of_lt_succ (by exact_mod_cast this)
  · by_cases least : exponentOf r = minExponent
    · exact .inr least
    · have above : (leastSignificand : ℚ) ≤ r.value / 2 ^ exponentOf r := by
        rw [le_div_iff₀ positive, leastSignificand_mul]
        exact le_trans (zpow_le_zpow_right₀ two (by omega)) low
      have : (leastSignificand : ℚ) < (r.scale 2 (-exponentOf r)).round + 1 := by linarith
      exact .inl (Nat.le_of_lt_succ (by exact_mod_cast this))

theorem canonical_zero : Canonical 0 minExponent :=
  ⟨by decide, le_rfl, by decide, .inr rfl⟩

/-- Rounding gives a double in its one form. -/
theorem canonical_ofRatio (h : r.Proper) (some : 0 < r.value) {negative sign : Bool}
    {significand : Nat} {exponent : Int}
    (is : ofRatio negative r = .finite sign significand exponent)
    : Canonical significand exponent := by
  obtain ⟨most, least⟩ := round_scale_bounds h some
  have bounded : minExponent ≤ exponentOf r := le_max_right ..
  unfold ofRatio at is
  dsimp only at is
  split_ifs at is with none power fits fits
  · cases is
    exact canonical_zero
  · cases is
    exact ⟨by decide, by omega, fits, .inl le_rfl⟩
  · cases is
    exact ⟨lt_of_le_of_ne most power, bounded, fits, least⟩

/-- Reading a decimal gives a double in its one form. -/
theorem canonical_ofDecimal {negative sign : Bool} {units significand : Nat} {power exponent : Int}
    (is : ofDecimal negative units power = .finite sign significand exponent)
    : Canonical significand exponent := by
  unfold ofDecimal at is
  dsimp only at is
  split_ifs at is with none
  · cases is
    exact canonical_zero
  · have proper : (Ratio.mk units 1).Proper := Nat.one_pos
    refine canonical_ofRatio (proper.scale (by decide) power) ?_ is
    rw [value_scale (by decide)]
    have some : (0 : ℚ) < units := by
      exact_mod_cast Nat.pos_of_ne_zero fun zero => none (.inl zero)
    simp only [Ratio.value, Nat.cast_one, div_one]
    positivity

end Polystore.Binary64
