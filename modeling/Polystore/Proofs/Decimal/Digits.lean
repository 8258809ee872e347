import Mathlib.Algebra.Order.Field.Power
import Mathlib.Algebra.Order.Field.Rat
import Mathlib.Data.List.Induction
import Mathlib.Tactic.Ring
import Polystore.Decimal.Rounding

/-! Decimal digits. The digits of a number are read as that number, zeros in front of digits are
not seen, and zeros behind them are factors of ten.
-/

namespace Polystore.Decimal

-----------------------------------------------------------------------------------------
-- Reading digits
-----------------------------------------------------------------------------------------

theorem ofDigits_append_singleton (base : Nat) (cs : List Char) (c : Char)
    : ofDigits base (cs ++ [c]) = ofDigits base cs * base + (digitValue? c).getD 0 := by
  simp [ofDigits, List.foldl_append]

/-- Digits behind others shift these, by induction on the digits behind. -/
theorem ofDigits_append (cs ds : List Char)
    : ofDigits 10 (cs ++ ds) = ofDigits 10 cs * 10 ^ ds.length + ofDigits 10 ds := by
  induction ds using List.reverseRecOn with
  | nil => simp [ofDigits]
  | append_singleton ds d ih =>
      rw [← List.append_assoc, ofDigits_append_singleton, ih, ofDigits_append_singleton,
        List.length_append, List.length_singleton, pow_succ]
      ring

theorem ofDigits_zeros (n : Nat) : ofDigits 10 (List.replicate n '0') = 0 := by
  induction n with
  | zero => rfl
  | succ n ih =>
      rw [List.replicate_succ', ofDigits_append_singleton, ih]
      rfl

theorem ofDigits_zeros_append (n : Nat) (cs : List Char)
    : ofDigits 10 (List.replicate n '0' ++ cs) = ofDigits 10 cs := by
  rw [ofDigits_append, ofDigits_zeros, zero_mul, zero_add]

-----------------------------------------------------------------------------------------
-- The digits of a number
-----------------------------------------------------------------------------------------

theorem digitValue?_digitChar {n : Nat} (h : n < 16) : digitValue? n.digitChar = some n := by
  revert n
  decide

theorem isDigit_of_mem_digits {n : Nat} {c : Char} (member : c ∈ digits n) : c.isDigit :=
  Nat.isDigit_of_mem_toDigits (by decide) (by decide) member

theorem length_digits_pos (n : Nat) : 0 < (digits n).length := Nat.length_toDigits_pos

/-- The digits of a number are read as that number, by induction on its size. -/
theorem ofDigits_digits (n : Nat) : ofDigits 10 (digits n) = n := by
  induction n using Nat.strongRecOn with
  | ind n ih =>
      unfold digits at ih ⊢
      rw [Nat.toDigits_eq_if (by decide)]
      split
      next small =>
        rw [← List.nil_append [n.digitChar], ofDigits_append_singleton,
          digitValue?_digitChar (by omega)]
        exact Nat.zero_add n
      next large =>
        rw [ofDigits_append_singleton, ih _ (by omega), digitValue?_digitChar (by omega),
          Option.getD_some]
        omega

/-- The first digit of a number is no zero. -/
theorem head?_digits {n : Nat} (nonzero : n ≠ 0) : (digits n).head? ≠ some '0' := by
  induction n using Nat.strongRecOn with
  | ind n ih =>
      unfold digits at ih ⊢
      rw [Nat.toDigits_eq_if (by decide)]
      split
      next small => simpa using nonzero
      next large =>
        rw [List.head?_append, List.head?_eq_some_head Nat.toDigits_ne_nil, Option.some_or,
          ← List.head?_eq_some_head]
        exact ih _ (by omega) (by omega)

/-- A number is less than the power of ten that has a digit more, and no less than its first digit
at its place.
-/
theorem digits_bounds {n : Nat} (nonzero : n ≠ 0)
    : 10 ^ ((digits n).length - 1) ≤ n ∧ n < 10 ^ (digits n).length := by
  have bound {k : Nat} (some : 0 < k) : (digits n).length ≤ k ↔ n < 10 ^ k :=
    Nat.length_toDigits_le_iff (by decide) some
  have positive := length_digits_pos n
  constructor
  · rcases Nat.eq_zero_or_pos ((digits n).length - 1) with zero | some
    · rw [zero, pow_zero]
      omega
    · exact not_lt.mp fun less => by
        have := (bound some).mpr less
        omega
  · exact (bound positive).mp le_rfl

end Polystore.Decimal
