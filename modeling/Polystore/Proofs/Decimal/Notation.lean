import Polystore.Decimal.Notation
import Polystore.Proofs.Decimal.Digits
import Polystore.Proofs.Decimal.Shortest

/-! How decimals are written. Whichever notation is taken, the digits in front of the point and
behind it, with the power of ten behind them, stand for the decimal.
-/

namespace Polystore.Decimal

open Binary64

/-- The parts of a written number: digits in front of the point, which begin with a zero only if
there is nothing else, and digits behind it.
-/
structure Numeral (whole fraction : List Char) : Prop where
  some : whole ≠ []
  digits : ∀ c ∈ whole ++ fraction, c.isDigit
  leading : whole = ['0'] ∨ whole.head? ≠ Option.some '0'

/-- What is written behind the digits in front of the point. -/
def pointed (fraction : List Char) : List Char :=
  if fraction.isEmpty then [] else '.' :: fraction

/-- The rational number that is written by digits and a power of ten. -/
def written (whole fraction : List Char) (power : Int) : ℚ :=
  ofDigits 10 (whole ++ fraction) * 10 ^ (power - fraction.length)

variable {d : Scaled}

/-- Positional notation has digits behind the point, and no power of ten. -/
theorem positional_parts (nonzero : d.digits ≠ 0)
    : ∃ whole fraction,
        positional 1 d = whole ++ '.' :: fraction
        ∧ Numeral whole fraction
        ∧ fraction ≠ []
        ∧ written whole fraction 0 = d.value := by
  have digit : ∀ c ∈ digits d.digits, c.isDigit := fun c => isDigit_of_mem_digits
  have zeros (n : Nat) : ∀ c ∈ List.replicate n '0', c.isDigit := fun c member => by
    rw [List.eq_of_mem_replicate member]
    decide
  have some := length_digits_pos d.digits
  have point : d.point = d.exponent + (digits d.digits).length := rfl
  have full : digits d.digits ≠ [] := List.ne_nil_of_length_pos some
  unfold positional
  dsimp only
  rw [if_neg nonzero]
  by_cases before : d.point ≤ 0
  · -- All digits are behind the point, perhaps behind zeros.
    rw [if_pos before, if_pos before]
    set fraction := List.replicate (-d.point).toNat '0' ++ digits d.digits with is
    have long : fraction.length = (-d.point).toNat + (digits d.digits).length := by simp [is]
    rw [show 1 - fraction.length = 0 by omega, List.replicate_zero, List.append_nil,
      if_neg (by simp [is, full])]
    refine ⟨['0'], fraction, rfl, ⟨nofun, ?_, .inl rfl⟩, by simp [is, full], ?_⟩
    · intro c member
      simp only [List.singleton_append, List.mem_cons, is, List.mem_append] at member
      rcases member with rfl | zero | member
      · decide
      · exact zeros _ c zero
      · exact digit c member
    · have same : ofDigits 10 (['0'] ++ fraction) = d.digits := by
        rw [is, ← List.replicate_one, ofDigits_zeros_append, ofDigits_zeros_append, ofDigits_digits]
      rw [written, same, Scaled.value, long]
      congr 2
      omega
  · -- The digits are in front of the point, perhaps with zeros behind them, and what is left of
    -- them is behind it, or a zero.
    rw [if_neg before, if_neg before]
    obtain ⟨n, places⟩ := Int.eq_ofNat_of_zero_le (not_le.mp before).le
    rw [places, Int.toNat_natCast]
    rw [places] at before point
    generalize is : digits d.digits = ds at digit some point full ⊢
    have front : ∃ c rest, ds.take n = c :: rest ∧ c ≠ '0' := by
      obtain ⟨c, rest, rfl⟩ := List.exists_cons_of_ne_nil full
      obtain ⟨n, rfl⟩ : ∃ m, n = m + 1 := ⟨n - 1, by omega⟩
      exact ⟨c, rest.take n, rfl, fun zero => head?_digits nonzero (by rw [is, zero]; rfl)⟩
    obtain ⟨c, rest, front, first⟩ := front
    have left : (ds.drop n).length = ds.length - n := List.length_drop
    have joined : (ds.take n ++ List.replicate (n - ds.length) '0')
        ++ (ds.drop n ++ List.replicate (1 - (ds.length - n)) '0')
        = ds ++ List.replicate (n - ds.length + (1 - (ds.length - n))) '0' := by
      rcases le_or_gt n ds.length with short | long
      · rw [Nat.sub_eq_zero_of_le short, List.replicate_zero, List.append_nil, Nat.zero_add,
          ← List.append_assoc, List.take_append_drop]
      · rw [List.take_of_length_le long.le, List.drop_of_length_le long.le, List.nil_append,
          List.append_assoc, List.replicate_append_replicate]
    have behind : ds.drop n ++ List.replicate (1 - (ds.length - n)) '0' ≠ [] := by
      refine List.ne_nil_of_length_pos ?_
      rw [List.length_append, left, List.length_replicate]
      omega
    rw [left, if_neg (by simpa using behind)]
    refine ⟨_, _, rfl, ⟨?_, ?_, .inr ?_⟩, behind, ?_⟩
    · simp [front]
    · rw [joined]
      intro c member
      rcases List.mem_append.mp member with member | zero
      · exact digit c member
      · exact zeros _ c zero
    · simpa [front] using first
    · have powers (a b : Nat) (x : ℚ) :
          x * 10 ^ a * 10 ^ ((0 : Int) - b) = x * 10 ^ ((a : Int) - b) := by
        rw [mul_assoc, ← zpow_natCast, ← zpow_add₀ (by norm_num)]
        congr 2
        ring
      rw [written, joined, ofDigits_append, ofDigits_zeros, add_zero, ← is, ofDigits_digits, is,
        Scaled.value]
      push_cast
      rw [List.length_replicate, powers, List.length_append, List.length_replicate, left]
      congr 2
      omega

/-- Scientific notation has one digit in front of the point, and a power of ten. -/
theorem scientific_parts (nonzero : d.digits ≠ 0)
    : ∃ whole fraction,
        scientific 'e' 0 d
        = whole ++ pointed fraction
            ++ 'e' :: (if d.point - 1 < 0 then '-' else '+') :: padded 2 (d.point - 1).natAbs
        ∧ Numeral whole fraction
        ∧ written whole fraction (d.point - 1) = d.value := by
  have digit : ∀ c ∈ digits d.digits, c.isDigit := fun c => isDigit_of_mem_digits
  have read := ofDigits_digits d.digits
  have first := head?_digits nonzero
  have point : d.point = d.exponent + (digits d.digits).length := rfl
  unfold scientific
  dsimp only
  rw [if_neg nonzero]
  obtain ⟨c, rest, is⟩ := List.exists_cons_of_length_pos (length_digits_pos d.digits)
  rw [is] at digit read first point ⊢
  rw [Nat.zero_sub, List.replicate_zero, List.append_nil]
  refine ⟨[c], rest, rfl, ⟨nofun, digit, .inr first⟩, ?_⟩
  rw [written, List.singleton_append, read, Scaled.value, point, List.length_cons]
  congr 2
  push_cast
  ring

theorem plain_zero (exponent : Int) : plain 0 exponent = ['0', '.', '0'] := by
  simp [plain, shortest, positional, Scaled.point, digits]

/-- The text of a double is told from that of a whole number by what is behind its first digits. -/
theorem plain_parts {significand : Nat} {exponent : Int}
    (canonical : Canonical significand exponent)
    : ∃ whole mark tail,
        plain significand exponent = whole ++ mark :: tail
        ∧ whole ≠ []
        ∧ (∀ c ∈ whole, c.isDigit)
        ∧ (mark = '.' ∨ mark = 'e') := by
  by_cases nonzero : significand = 0
  · subst nonzero
    exact ⟨['0'], '.', ['0'], plain_zero exponent, nofun, by simp, .inl rfl⟩
  · have some := digits_shortest_ne_zero canonical nonzero
    unfold plain
    dsimp only
    split
    · obtain ⟨whole, fraction, is, numeral, _⟩ := positional_parts some
      exact ⟨whole, '.', fraction, is, numeral.some,
        fun c member => numeral.digits c (List.mem_append_left _ member), .inl rfl⟩
    · obtain ⟨whole, fraction, is, numeral, _⟩ := scientific_parts some
      have digits : ∀ c ∈ whole, c.isDigit :=
        fun c member => numeral.digits c (List.mem_append_left _ member)
      rw [is]
      unfold pointed
      split
      · exact ⟨whole, 'e', _, by rw [List.append_nil], numeral.some, digits, .inr rfl⟩
      · exact ⟨whole, '.', _, by rw [List.append_assoc]; rfl, numeral.some, digits, .inl rfl⟩

end Polystore.Decimal
