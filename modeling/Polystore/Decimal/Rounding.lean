/-!
Exact rounding of positive ratios. A ratio is a pair of natural numbers, scaled by powers of ten
or two before it is rounded, so nothing is lost before the last step; a half goes to the even
neighbour.
-/

namespace Polystore.Decimal

/-- The whole number nearest to `num / den`; a half goes to the even neighbour. -/
def roundDiv (num den : Nat) : Nat :=
  let quotient := num / den
  let rest := num % den
  if 2 * rest < den then quotient
  else if 2 * rest = den ∧ quotient % 2 = 0 then quotient
  else quotient + 1

/-- A positive ratio of natural numbers. -/
structure Ratio where
  num : Nat
  den : Nat

namespace Ratio

/-- The ratio times `base ^ power`. -/
def scale (base : Nat) (power : Int) (r : Ratio) : Ratio :=
  if 0 ≤ power then ⟨r.num * base.pow power.toNat, r.den⟩
  else ⟨r.num, r.den * base.pow (-power).toNat⟩

def le (r s : Ratio) : Bool := r.num * s.den ≤ s.num * r.den

def lt (r s : Ratio) : Bool := r.num * s.den < s.num * r.den

/-- The nearest whole number, a half going to the even one. -/
def round (r : Ratio) : Nat := roundDiv r.num r.den

def floor (r : Ratio) : Nat := r.num / r.den

/-- The distance between two ratios. -/
def dist (r s : Ratio) : Ratio :=
  ⟨(r.num * s.den - s.num * r.den) + (s.num * r.den - r.num * s.den), r.den * s.den⟩

/-- Steps `guess` up while the next power of ten is still at most the ratio. -/
def raise (r : Ratio) : Nat → Int → Int
  | 0, guess => guess
  | steps + 1, guess =>
    if le (scale 10 (guess + 1) ⟨1, 1⟩) r then raise r steps (guess + 1) else guess

/-- The exponent of the largest power of ten that is at most the ratio. The binary logarithm
gives a guess that is at most three too small. -/
def decimalExponent (r : Ratio) : Int :=
  let bits : Int := (r.num.log2 : Int) - r.den.log2
  raise r 4 (Int.fdiv ((bits - 1) * 30103) 100000 - 1)

end Ratio

/-- The decimal digits of a natural number, most significant first; zero is one digit. -/
def digits (n : Nat) : List Char := Nat.toDigits 10 n

/-- The value of a digit in any base up to sixteen. -/
def digitValue? (c : Char) : Option Nat :=
  if '0' ≤ c ∧ c ≤ '9' then some (c.toNat - '0'.toNat)
  else if 'a' ≤ c ∧ c ≤ 'f' then some (c.toNat - 'a'.toNat + 10)
  else if 'A' ≤ c ∧ c ≤ 'F' then some (c.toNat - 'A'.toNat + 10)
  else none

/-- Reads characters as digits of a base, counting any other character as zero. -/
def ofDigits (base : Nat) (cs : List Char) : Nat :=
  cs.foldl (fun n c => n * base + (digitValue? c).getD 0) 0

end Polystore.Decimal
