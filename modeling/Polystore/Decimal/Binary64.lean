import Polystore.Decimal.Rounding

/-!
Double precision numbers as data: a sign, a whole significand and a power of two. Reading a
decimal rounds the exact value once, so every double that a text or an integer stands for is the
nearest one. Finite doubles are compared through the dyadic number they denote.
-/

namespace Polystore

/-- A double: not a number, an infinity, or `± significand * 2 ^ exponent`. -/
inductive Binary64 where
  | nan
  | infinite (negative : Bool)
  | finite (negative : Bool) (significand : Nat) (exponent : Int)
  deriving DecidableEq, Inhabited

namespace Binary64

open Decimal (Ratio)

/-- The least exponent of a double, which the subnormal numbers share. -/
def minExponent : Int := -1074

/-- The greatest exponent of a finite double. -/
def maxExponent : Int := 971

/-- The least significand of 53 bits. -/
def leastSignificand : Nat := 0x10000000000000

def zero (negative : Bool) : Binary64 := .finite negative 0 minExponent

/-- The exponent that leaves 53 significant bits before the point, or the least one. -/
def exponentOf (r : Ratio) : Int :=
  let guess : Int := (r.num.log2 : Int) - r.den.log2 - 52
  let exact := if Ratio.lt (r.scale 2 (-guess)) ⟨leastSignificand, 1⟩ then guess - 1 else guess
  max exact minExponent

/-- The double nearest to a positive ratio, a half going to the even significand. -/
def ofRatio (negative : Bool) (r : Ratio) : Binary64 :=
  let exponent := exponentOf r
  let significand := (r.scale 2 (-exponent)).round
  if significand = 0 then zero negative
  else if significand = 2 * leastSignificand then
    if exponent + 1 ≤ maxExponent then .finite negative leastSignificand (exponent + 1)
    else .infinite negative
  else if exponent ≤ maxExponent then .finite negative significand exponent
  else .infinite negative

/-- The double nearest to `± significand * 10 ^ exponent`. Values far out of range are settled
by their size, before any power is computed. -/
def ofDecimal (negative : Bool) (significand : Nat) (exponent : Int) : Binary64 :=
  let size : Int := exponent + (Decimal.digits significand).length
  if significand = 0 ∨ size < -330 then zero negative
  else if 310 < size then .infinite negative
  else ofRatio negative (Ratio.scale 10 exponent ⟨significand, 1⟩)

/-- The double nearest to an integer. -/
def ofInt (i : Int) : Binary64 :=
  if i = 0 then zero false else ofRatio (i < 0) ⟨i.natAbs, 1⟩

/-- The size of a finite double as a ratio. -/
def ratio (significand : Nat) (exponent : Int) : Ratio :=
  Ratio.scale 2 exponent ⟨significand, 1⟩

/-- The double nearest to the exact product with a natural number. -/
def timesNat (k : Nat) : Binary64 → Binary64
  | .finite negative significand exponent =>
    if significand * k = 0 then zero negative
    else ofRatio negative (ratio (significand * k) exponent)
  | x => x

/-- The exact value of a finite double. -/
def toDyadic? : Binary64 → Option Dyadic
  | .finite negative significand exponent =>
    let magnitude : Int := significand
    some (.ofIntWithPrec (if negative then -magnitude else magnitude) (-exponent))
  | _ => none

def isNegative : Binary64 → Bool
  | .nan => false
  | .infinite negative => negative
  | .finite negative _ _ => negative

def isZero : Binary64 → Bool
  | .finite _ significand _ => significand = 0
  | _ => false

/-- The integer a finite double is equal to, if it is one. -/
def toInt? : Binary64 → Option Int
  | .finite negative significand exponent =>
    let r := ratio significand exponent
    if r.num % r.den = 0 then
      let magnitude : Int := r.floor
      some (if negative then -magnitude else magnitude)
    else none
  | _ => none

end Binary64

end Polystore
