import Polystore.Decimal.Shortest

/-!
The written forms of a double: positional and scientific notation from decimal digits. The plain
text of a double uses the shortest digits, positional from `1e-4` up to below `1e16`, and always
shows a point or an exponent.
-/

namespace Polystore.Decimal

/-- A natural number with at least `width` digits. -/
def padded (width n : Nat) : List Char :=
  let ds := digits n
  List.replicate (width - ds.length) '0' ++ ds

/-- The digits with the point after `point` of them and at least `least` digits behind it. -/
def positional (least : Nat) (d : Scaled) : List Char :=
  let ds := digits d.digits
  let point := d.point
  let whole :=
    if point ≤ 0 then ['0']
    else ds.take point.toNat ++ List.replicate (point.toNat - ds.length) '0'
  let behind :=
    if point ≤ 0 then List.replicate (-point).toNat '0' ++ ds else ds.drop point.toNat
  let behind := if d.digits = 0 then [] else behind
  let behind := behind ++ List.replicate (least - behind.length) '0'
  if behind.isEmpty then whole else whole ++ '.' :: behind

/-- One digit, the point, at least `least` digits and a signed exponent of two digits or more. -/
def scientific (mark : Char) (least : Nat) (d : Scaled) : List Char :=
  let ds := digits d.digits
  let behind := ds.drop 1 ++ List.replicate (least - (ds.length - 1)) '0'
  let exponent := if d.digits = 0 then 0 else d.point - 1
  ds.take 1 ++ (if behind.isEmpty then [] else '.' :: behind)
    ++ mark :: (if exponent < 0 then '-' else '+') :: padded 2 exponent.natAbs

/-- The unsigned plain text of a finite double. -/
def plain (significand : Nat) (exponent : Int) : List Char :=
  let d := shortest significand exponent
  if -4 < d.point ∧ d.point ≤ 16 then positional 1 d else scientific 'e' 0 d

/-- The text of `units` of the last of `count` places. -/
def fixed (count units : Nat) : List Char :=
  let ds := padded (count + 1) units
  let whole := ds.length - count
  if count = 0 then ds else ds.take whole ++ '.' :: ds.drop whole

end Polystore.Decimal

namespace Polystore.Binary64

/-- The plain text: the fewest digits that read back as this double. -/
def toText : Binary64 → String
  | .nan => "nan"
  | .infinite negative => if negative then "-inf" else "inf"
  | .finite negative significand exponent =>
    let body := Decimal.plain significand exponent
    String.ofList (if negative then '-' :: body else body)

end Polystore.Binary64
