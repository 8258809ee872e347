import Polystore.Decimal.Binary64

/-!
Decimal digits of a double. `shortest` gives the fewest digits that read back as the same double,
and the nearest such digits to its exact value; `significant` and `places` round the exact value
to a number of digits.
-/

namespace Polystore.Decimal

/-- The decimal `digits * 10 ^ exponent`. -/
structure Scaled where
  digits : Nat
  exponent : Int

namespace Scaled

/-- Drops `fuel` zeros at the end of the digits at most. -/
def trimWithin : Nat → Scaled → Scaled
  | 0, d => d
  | fuel + 1, d =>
    if d.digits ≠ 0 ∧ d.digits % 10 = 0 then trimWithin fuel ⟨d.digits / 10, d.exponent + 1⟩
    else d

/-- The same decimal without zeros at the end of its digits. -/
def trim (d : Scaled) : Scaled := trimWithin (Decimal.digits d.digits).length d

/-- The place of the point, counted from the first digit. -/
def point (d : Scaled) : Int := d.exponent + (Decimal.digits d.digits).length

def ratio (d : Scaled) : Ratio := Ratio.scale 10 d.exponent ⟨d.digits, 1⟩

end Scaled

/-- The reals that read back as one double: between half the gaps to its neighbours, ends
included when the significand is even. -/
structure Interval where
  low : Ratio
  high : Ratio
  closed : Bool

namespace Interval

def ofDouble (significand : Nat) (exponent : Int) : Interval :=
  let narrow := significand = Binary64.leastSignificand ∧ Binary64.minExponent < exponent
  { low :=
      if narrow then Binary64.ratio (4 * significand - 1) (exponent - 2)
      else Binary64.ratio (2 * significand - 1) (exponent - 1)
    high := Binary64.ratio (2 * significand + 1) (exponent - 1)
    closed := significand % 2 = 0 }

def holds (i : Interval) (r : Ratio) : Bool :=
  if i.closed then i.low.le r && r.le i.high else i.low.lt r && r.lt i.high

end Interval

/-- The nearer of the value's two neighbours on a decimal grid that lies in the interval. -/
def onGrid (i : Interval) (value : Ratio) (exponent : Int) : Option Scaled :=
  let below := (value.scale 10 (-exponent)).floor
  let low : Scaled := ⟨below, exponent⟩
  let high : Scaled := ⟨below + 1, exponent⟩
  match i.holds low.ratio, i.holds high.ratio with
  | true, true =>
    let down := value.dist low.ratio
    let up := value.dist high.ratio
    if down.lt up then some low
    else if up.lt down then some high
    else if below % 2 = 0 then some low else some high
  | true, false => some low
  | false, true => some high
  | false, false => none

/-- Tries ever finer grids; the seventeenth digit always settles a double. -/
def searchGrids (i : Interval) (value : Ratio) : Nat → Int → Scaled
  | 0, exponent => ⟨(value.scale 10 (-exponent)).round, exponent⟩
  | grids + 1, exponent =>
    match onGrid i value exponent with
    | some d => d
    | none => searchGrids i value grids (exponent - 1)

/-- The shortest decimal that reads back as the double `significand * 2 ^ exponent`. -/
def shortest (significand : Nat) (exponent : Int) : Scaled :=
  if significand = 0 then ⟨0, 0⟩
  else
    let value := Binary64.ratio significand exponent
    (searchGrids (.ofDouble significand exponent) value 17 value.decimalExponent).trim

/-- The most significant digits of a double. -/
def digitsOfDouble : Nat := 767

/-- The decimal of `count` significant digits nearest to the double. More digits than a double can
have change nothing. -/
def significant (count significand : Nat) (exponent : Int) : Scaled :=
  if significand = 0 then ⟨0, 0⟩
  else
    let value := Binary64.ratio significand exponent
    let unit := value.decimalExponent + 1 - min count digitsOfDouble
    (Scaled.mk (value.scale 10 (-unit)).round unit).trim

/-- The whole number of units of the last of `count` places nearest to the double. -/
def places (count significand : Nat) (exponent : Int) : Nat :=
  ((Binary64.ratio significand exponent).scale 10 count).round

end Polystore.Decimal
