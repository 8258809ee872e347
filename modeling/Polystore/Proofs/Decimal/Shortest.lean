import Polystore.Decimal.Shortest
import Polystore.Proofs.Decimal.Nearest

/-! The shortest digits of a double are read as that double. Seventeen digits always suffice, so
that the search for them ends on a grid that has a point between the ends of the double's interval.
-/

namespace Polystore.Decimal

open Binary64

-----------------------------------------------------------------------------------------
-- Values of doubles and of decimals
-----------------------------------------------------------------------------------------

theorem proper_ratio (significand : Nat) (exponent : Int)
    : (Binary64.ratio significand exponent).Proper :=
  Ratio.Proper.scale (r := ⟨significand, 1⟩) Nat.one_pos (by decide) exponent

theorem value_ratio (significand : Nat) (exponent : Int)
    : (Binary64.ratio significand exponent).value = significand * 2 ^ exponent := by
  rw [Binary64.ratio, Ratio.value_scale (by decide)]
  simp [Ratio.value]

namespace Scaled

variable {d : Scaled}

/-- The rational number that a decimal stands for. -/
def value (d : Scaled) : ℚ := d.digits * 10 ^ d.exponent

theorem proper_ratio (d : Scaled) : d.ratio.Proper :=
  Ratio.Proper.scale (r := ⟨d.digits, 1⟩) Nat.one_pos (by decide) d.exponent

theorem value_ratio (d : Scaled) : d.ratio.value = d.value := by
  rw [ratio, Ratio.value_scale (by decide), value]
  simp [Ratio.value]

/-- Zeros at the end of the digits add nothing to the value, by induction on how many are dropped.
-/
theorem value_trimWithin (fuel : Nat) (d : Scaled) : (trimWithin fuel d).value = d.value := by
  induction fuel generalizing d with
  | zero => rfl
  | succ fuel ih =>
      rw [trimWithin]
      split
      next zero =>
        have split : d.digits / 10 * 10 = d.digits :=
          Nat.div_mul_cancel (Nat.dvd_of_mod_eq_zero zero.2)
        rw [ih, value, value, zpow_add_one₀ (by norm_num), mul_comm ((10 : ℚ) ^ d.exponent),
          ← mul_assoc]
        congr 1
        exact_mod_cast split
      · rfl

theorem value_trim (d : Scaled) : d.trim.value = d.value := value_trimWithin _ d

end Scaled

-----------------------------------------------------------------------------------------
-- The interval of a double
-----------------------------------------------------------------------------------------

/-- The interval of a double holds what is read as that double. -/
theorem holds_ofDouble {significand : Nat} {exponent : Int} (nonzero : significand ≠ 0) {r : Ratio}
    (proper : r.Proper)
    : (Interval.ofDouble significand exponent).holds r = true
      ↔ ReadAs significand exponent r.value := by
  have positive : (0 : ℚ) < 2 ^ exponent := by positivity
  have least : 1 ≤ significand := Nat.one_le_iff_ne_zero.mpr nonzero
  -- The ends in units of the last place.
  have half (n : Nat) : (Binary64.ratio n (exponent - 1)).value = n / 2 * 2 ^ exponent := by
    rw [value_ratio, zpow_sub_one₀ two_ne_zero]
    ring
  have quarter (n : Nat) : (Binary64.ratio n (exponent - 2)).value = n / 4 * 2 ^ exponent := by
    rw [value_ratio, zpow_sub₀ two_ne_zero]
    ring
  have high : (Binary64.ratio (2 * significand + 1) (exponent - 1)).value
      = (significand + 1 / 2) * 2 ^ exponent := by
    rw [half]
    push_cast
    ring
  have low : (Binary64.ratio (2 * significand - 1) (exponent - 1)).value
      = (significand - 1 / 2) * 2 ^ exponent := by
    rw [half, Nat.cast_sub (by omega)]
    push_cast
    ring
  have near : (Binary64.ratio (4 * significand - 1) (exponent - 2)).value
      = (significand - 1 / 4) * 2 ^ exponent := by
    rw [quarter, Nat.cast_sub (by omega)]
    push_cast
    ring
  have is : r.value = r.value / 2 ^ exponent * 2 ^ exponent :=
    (div_mul_cancel₀ _ positive.ne').symm
  unfold Interval.holds Interval.ofDouble
  dsimp only
  by_cases narrow : significand = leastSignificand ∧ minExponent < exponent
  · -- A power of two is even, so that both ends belong to the interval.
    obtain ⟨rfl, more⟩ := narrow
    rw [if_pos (by decide), if_pos ⟨rfl, more⟩, Bool.and_eq_true,
      Ratio.le_iff (proper_ratio ..) proper, Ratio.le_iff proper (proper_ratio ..), near, high, is,
      mul_le_mul_iff_left₀ positive, mul_le_mul_iff_left₀ positive, ← is]
    constructor
    · rintro ⟨low, high⟩
      refine ⟨⟨?_, fun odd => absurd odd (by decide)⟩, fun _ _ => low⟩
      rw [abs_le]
      constructor <;> linarith
    · rintro ⟨⟨nearest, _⟩, narrow⟩
      rw [abs_le] at nearest
      exact ⟨narrow rfl more, by linarith⟩
  · have plain : significand = leastSignificand → minExponent < exponent →
        (significand : ℚ) - 1 / 4 ≤ r.value / 2 ^ exponent :=
      fun same more => absurd ⟨same, more⟩ narrow
    rw [if_neg narrow]
    by_cases even : significand % 2 = 0
    · rw [if_pos (decide_eq_true even), Bool.and_eq_true, Ratio.le_iff (proper_ratio ..) proper,
        Ratio.le_iff proper (proper_ratio ..), low, high, is, mul_le_mul_iff_left₀ positive,
        mul_le_mul_iff_left₀ positive, ← is]
      constructor
      · rintro ⟨low, high⟩
        refine ⟨⟨?_, fun odd => by omega⟩, plain⟩
        rw [abs_le]
        constructor <;> linarith
      · rintro ⟨⟨nearest, _⟩, _⟩
        rw [abs_le] at nearest
        constructor <;> linarith
    · rw [if_neg (by simpa using even), Bool.and_eq_true, Ratio.lt_iff (proper_ratio ..) proper,
        Ratio.lt_iff proper (proper_ratio ..), low, high, is, mul_lt_mul_iff_left₀ positive,
        mul_lt_mul_iff_left₀ positive, ← is]
      constructor
      · rintro ⟨low, high⟩
        have inside : |(significand : ℚ) - r.value / 2 ^ exponent| < 1 / 2 := by
          rw [abs_lt]
          constructor <;> linarith
        exact ⟨⟨inside.le, fun _ => inside⟩, plain⟩
      · rintro ⟨⟨_, inside⟩, _⟩
        have inside := abs_lt.mp (inside (by omega))
        constructor <;> linarith

-----------------------------------------------------------------------------------------
-- The search for digits
-----------------------------------------------------------------------------------------

/-- A point that is found on a grid lies in the interval. -/
theorem holds_of_onGrid {i : Interval} {value : Ratio} {exponent : Int} {d : Scaled}
    (h : onGrid i value exponent = some d)
    : i.holds d.ratio = true := by
  unfold onGrid at h
  dsimp only at h
  split at h
  next low high =>
    repeat' split at h
    all_goals
      cases h
      assumption
  next low _ =>
    cases h
    exact low
  next _ high =>
    cases h
    exact high
  · cases h

/-- A point is found on a grid if a neighbour of the value on it lies in the interval. -/
theorem exists_onGrid {i : Interval} {value : Ratio} {exponent : Int}
    (h
      : let below := (value.scale 10 (-exponent)).floor
        i.holds (Scaled.mk below exponent).ratio = true
        ∨ i.holds (Scaled.mk (below + 1) exponent).ratio = true)
    : ∃ d, onGrid i value exponent = some d := by
  unfold onGrid
  dsimp only at h ⊢
  split
  · repeat' split
    all_goals exact ⟨_, rfl⟩
  · exact ⟨_, rfl⟩
  · exact ⟨_, rfl⟩
  next low high => simp [low, high] at h

/-- The search ends in the interval if one of its grids has a point there, by induction on the
number of grids.
-/
theorem holds_searchGrids {i : Interval} {value : Ratio} {grids : Nat} {exponent : Int}
    {k : Nat} (within : k < grids) {d : Scaled} (found : onGrid i value (exponent - k) = some d)
    : i.holds (searchGrids i value grids exponent).ratio = true := by
  induction grids generalizing exponent k with
  | zero => cases within
  | succ grids ih =>
      rw [searchGrids]
      split
      next d here => exact holds_of_onGrid here
      next none =>
        cases k with
        | zero => simp [none] at found
        | succ k =>
            refine ih (k := k) (by omega) ?_
            rw [← found]
            congr 1
            push_cast
            ring

/-- The grid of seventeen digits has a point that is read as the double: its unit is less than one
in the last place of the significand, and less than half of one at a power of two.
-/
theorem exists_seventeen_digits {significand : Nat} {exponent : Int}
    (canonical : Canonical significand exponent) (nonzero : significand ≠ 0) {place : Int}
    (below : (10 : ℚ) ^ place ≤ significand * 2 ^ exponent)
    : ∃ d,
        onGrid (.ofDouble significand exponent) (Binary64.ratio significand exponent) (place - 16)
        = some d := by
  have binary : (0 : ℚ) < 2 ^ exponent := by positivity
  have decimal : (0 : ℚ) < 10 ^ (place - 16) := by positivity
  have bits : (significand : ℚ) + 1 ≤ 2 * leastSignificand := by exact_mod_cast canonical.bits
  have size : (leastSignificand : ℚ) = 4503599627370496 := by norm_num [leastSignificand]
  -- Neighbours on the grid, in units of the last place.
  obtain ⟨floor, ceiling⟩ := Ratio.floor_bounds
    ((proper_ratio significand exponent).scale (by decide : 0 < 10) (-(place - 16)))
  rw [Ratio.value_scale (by decide), value_ratio] at floor ceiling
  refine exists_onGrid ?_
  dsimp only
  rw [holds_ofDouble nonzero (Scaled.proper_ratio _),
    holds_ofDouble nonzero (Scaled.proper_ratio _), Scaled.value_ratio, Scaled.value_ratio,
    Scaled.value, Scaled.value]
  generalize ((Binary64.ratio significand exponent).scale 10 (-(place - 16))).floor = n
    at floor ceiling ⊢
  dsimp only
  rw [zpow_neg, ← div_eq_mul_inv, Nat.cast_ofNat] at floor ceiling
  rw [le_div_iff₀ decimal] at floor
  rw [div_lt_iff₀ decimal] at ceiling
  obtain ⟨unit, is⟩ : ∃ unit : ℚ, (10 : ℚ) ^ (place - 16) = unit * 2 ^ exponent :=
    ⟨_, (div_mul_cancel₀ _ binary.ne').symm⟩
  have whole : (10 : ℚ) ^ place = unit * 10 ^ 16 * 2 ^ exponent := by
    rw [mul_right_comm, ← is, ← zpow_natCast (10 : ℚ) 16, ← zpow_add₀ (by norm_num)]
    congr 1
    norm_num
  rw [whole, mul_le_mul_iff_left₀ binary] at below
  rw [is, ← mul_assoc, mul_le_mul_iff_left₀ binary] at floor
  rw [is, ← mul_assoc, mul_lt_mul_iff_left₀ binary] at ceiling
  have units (m : Nat) : (m : ℚ) * 10 ^ (place - 16) / 2 ^ exponent = m * unit := by
    rw [is, ← mul_assoc, mul_div_assoc, div_self binary.ne', mul_one]
  by_cases low : (significand : ℚ) - n * unit < 1 / 2 ∧ significand ≠ leastSignificand
  · left
    have inside : |(significand : ℚ) - n * unit| < 1 / 2 := by
      rw [abs_lt]
      constructor <;> linarith [low.1]
    exact ⟨by rw [units]; exact ⟨inside.le, fun _ => inside⟩, fun same => absurd same low.2⟩
  · right
    have next : ((n + 1 : Nat) : ℚ) * unit = n * unit + unit := by
      push_cast
      ring
    have above : (significand : ℚ) < n * unit + unit := by linarith
    have close : n * unit + unit - significand < 1 / 2 := by
      by_cases power : significand = leastSignificand
      · have : (significand : ℚ) = 4503599627370496 := by rw [power, size]
        linarith
      · have far := not_lt.mp fun less => low ⟨less, power⟩
        linarith
    have inside : |(significand : ℚ) - (n + 1 : Nat) * unit| < 1 / 2 := by
      rw [next, abs_lt]
      constructor <;> linarith
    refine ⟨by rw [units]; exact ⟨inside.le, fun _ => inside⟩, fun _ _ => ?_⟩
    rw [units, next]
    linarith

/-- The shortest digits of a double are read as that double. -/
theorem readAs_shortest {significand : Nat} {exponent : Int}
    (canonical : Canonical significand exponent) (nonzero : significand ≠ 0)
    : ReadAs significand exponent (shortest significand exponent).value := by
  have proper := proper_ratio significand exponent
  have some : (1 : ℚ) ≤ significand := by exact_mod_cast Nat.one_le_iff_ne_zero.mpr nonzero
  have bits : (significand : ℚ) ≤ 2 ^ (53 : Int) := by
    exact_mod_cast canonical.bits.le
  have least : -1074 ≤ exponent := canonical.least
  have most : exponent ≤ 971 := canonical.most
  have above : (2 : ℚ) ^ exponent ≤ (Binary64.ratio significand exponent).value := by
    rw [value_ratio]
    exact le_mul_of_one_le_left (by positivity) some
  have below : (Binary64.ratio significand exponent).value ≤ (2 : ℚ) ^ (53 + exponent) := by
    rw [value_ratio, zpow_add₀ two_ne_zero]
    gcongr
  have place := Ratio.ten_pow_decimalExponent_le proper (by omega) (by omega) above below
  rw [value_ratio] at place
  obtain ⟨d, found⟩ := exists_seventeen_digits canonical nonzero place
  have holds := holds_searchGrids (by decide : 16 < 17) found
  rw [holds_ofDouble nonzero (Scaled.proper_ratio _), Scaled.value_ratio] at holds
  rw [shortest, if_neg nonzero, Scaled.value_trim]
  exact holds

theorem digits_shortest_ne_zero {significand : Nat} {exponent : Int}
    (canonical : Canonical significand exponent) (nonzero : significand ≠ 0)
    : (shortest significand exponent).digits ≠ 0 := by
  intro zero
  have low := ((readAs_shortest canonical nonzero).bounds canonical nonzero).1
  have positive := (zpow_pos two_pos _).trans_le low
  rw [Scaled.value, zero, Nat.cast_zero, zero_mul] at positive
  exact lt_irrefl _ positive

end Polystore.Decimal
