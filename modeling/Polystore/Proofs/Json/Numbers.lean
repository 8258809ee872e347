import Polystore.Proofs.Decimal.Notation
import Polystore.Proofs.Json.Limits

/-! The text of a double is read back as that double, so that different doubles have different
texts.
-/

namespace Polystore.Json.Token

open Decimal Binary64

/-- Nothing in front of a text continues a number. -/
def EndsNumber (rest : List Char) : Prop :=
  ∀ c ∈ rest.head?, ¬ c.isDigit ∧ c ≠ '.' ∧ c ≠ 'e' ∧ c ≠ 'E'

/-- A written number with digits behind the point, or with a power of ten, is read as the double
nearest to it.
-/
theorem number?_numeral (negative : Bool) {whole fraction tail : List Char}
    (numeral : Numeral whole fraction) (stops : ∀ c ∈ tail.head?, ¬ c.isDigit ∧ c ≠ '.')
    {power : Int} {length : Nat} (scale : (exponent? tail).getD (0, 0) = (power, length))
    (float : fraction ≠ [] ∨ exponent? tail ≠ none)
    : number? negative (whole ++ pointed fraction ++ tail)
      = some
          (.literal
            (.float
              (ofDecimal negative (ofDigits 10 (whole ++ fraction)) (power - fraction.length))),
            (whole ++ pointed fraction).length + length) := by
  have some : whole.isEmpty = false := by simpa using numeral.some
  have digits : ∀ c ∈ whole, c.isDigit :=
    fun c member => numeral.digits c (List.mem_append_left _ member)
  have behind : ∀ c ∈ (pointed fraction ++ tail).head?, ¬ c.isDigit := by
    unfold pointed
    split
    · exact fun c head => (stops c head).1
    · rintro c ⟨⟩
      decide
  have zero {rest : List Char} (is : whole ++ pointed fraction ++ tail = '0' :: rest)
      : whole = ['0'] := by
    refine numeral.leading.resolve_right fun first => first ?_
    obtain ⟨c, rest, rfl⟩ := List.exists_cons_of_ne_nil numeral.some
    cases is
    rfl
  have front : (whole ++ pointed fraction ++ tail).takeWhile Char.isDigit = whole := by
    rw [List.append_assoc]
    exact takeWhile_eq_iff.mpr ⟨_, rfl, digits, behind⟩
  have fractional : digitsBehind '.' (pointed fraction ++ tail) = fraction := by
    unfold pointed
    split
    next none =>
      rw [List.isEmpty_iff.mp none, List.nil_append]
      cases tail with
      | nil => rfl
      | cons c rest => exact if_neg (stops c rfl).2
    next =>
      rw [List.cons_append, digitsBehind, if_pos rfl, takeWhile_eq_iff]
      exact ⟨tail, rfl, fun c member => numeral.digits c (List.mem_append_right _ member),
        fun c head => (stops c head).1⟩
  have shift
      : (if fraction.isEmpty then 0 else fraction.length + 1) = (pointed fraction).length := by
    unfold pointed
    split <;> rfl
  unfold number?
  split <;> [rw [← zero (by assumption)]; rw [front]]
  all_goals
    dsimp only
    rw [some, if_neg Bool.false_ne_true, List.append_assoc, List.drop_left, fractional, shift,
      List.drop_left, List.length_append]
    split
    next none plain =>
      exact absurd float (by simpa using ⟨List.isEmpty_iff.mp none, plain⟩)
    · rw [scale]

/-- A power of ten is read as it is written. -/
theorem exponent?_written (power : Int) {rest : List Char} (stops : ∀ c ∈ rest.head?, ¬ c.isDigit)
    : exponent? (('e' :: (if power < 0 then '-' else '+') :: padded 2 power.natAbs) ++ rest)
      = some (power, 2 + (padded 2 power.natAbs).length) := by
  have digits : ∀ c ∈ padded 2 power.natAbs, c.isDigit := by
    intro c member
    rcases List.mem_append.mp member with zero | digit
    · rw [List.eq_of_mem_replicate zero]
      decide
    · exact isDigit_of_mem_digits digit
  have value : ofDigits 10 (padded 2 power.natAbs) = power.natAbs := by
    rw [padded, ofDigits_zeros_append, ofDigits_digits]
  have some : (padded 2 power.natAbs).isEmpty = false := by
    rw [List.isEmpty_eq_false_iff, padded]
    exact List.append_ne_nil_of_right_ne_nil _ (List.ne_nil_of_length_pos (length_digits_pos _))
  have taken : (padded 2 power.natAbs ++ rest).takeWhile Char.isDigit = padded 2 power.natAbs :=
    takeWhile_eq_iff.mpr ⟨rest, rfl, digits, stops⟩
  split
  next less => simp [exponent?, taken, value, some, abs_of_neg less]
  next more => simp [exponent?, taken, value, some, abs_of_nonneg (not_lt.mp more)]

theorem EndsNumber.exponent? {rest : List Char} (ends : EndsNumber rest)
    : exponent? rest = none := by
  cases rest with
  | nil => rfl
  | cons c rest =>
      obtain ⟨_, _, small, large⟩ := ends c rfl
      exact if_neg (not_or.mpr ⟨small, large⟩)

/-- The text of a double is read back as that double. -/
theorem number?_plain {negative : Bool} {significand : Nat} {exponent : Int}
    (canonical : Canonical significand exponent) {rest : List Char} (ends : EndsNumber rest)
    : number? negative (plain significand exponent ++ rest)
      = some
          (.literal (.float (.finite negative significand exponent)),
            (plain significand exponent).length) := by
  have stops : ∀ c ∈ rest.head?, ¬ c.isDigit ∧ c ≠ '.' :=
    fun c head => ⟨(ends c head).1, (ends c head).2.1⟩
  have none : (Token.exponent? rest).getD (0, 0) = (0, 0) := by
    rw [ends.exponent?]
    rfl
  by_cases nonzero : significand = 0
  · -- A zero has one form.
    subst nonzero
    obtain rfl : exponent = minExponent := canonical.full.resolve_left (by decide)
    have numeral : Numeral ['0'] ['0'] := ⟨nofun, by simp, .inl rfl⟩
    exact number?_numeral negative numeral stops none (.inl nofun)
  · have reads := readAs_shortest canonical nonzero
    have some := digits_shortest_ne_zero canonical nonzero
    unfold plain
    dsimp only
    split
    · obtain ⟨whole, fraction, is, numeral, full, value⟩ := positional_parts some
      have dotted : pointed fraction = '.' :: fraction := if_neg (by simpa using full)
      have read := number?_numeral negative numeral stops none (.inl full)
      rw [← value] at reads
      rw [ofDecimal_eq canonical nonzero reads, Nat.add_zero] at read
      rw [is, ← dotted]
      exact read
    · obtain ⟨whole, fraction, is, numeral, value⟩ := scientific_parts some
      have scale := exponent?_written ((shortest significand exponent).point - 1)
        fun c head => (stops c head).1
      have read := number?_numeral negative numeral (by rintro c ⟨⟩; decide)
        (congrArg (·.getD (0, 0)) scale) (.inr (by rw [scale]; nofun))
      rw [← value] at reads
      rw [ofDecimal_eq canonical nonzero reads] at read
      rw [is, List.append_assoc]
      refine read.trans (congrArg (fun n => Option.some (_, n)) ?_)
      simp only [List.length_append, List.length_cons]
      omega

end Polystore.Json.Token
