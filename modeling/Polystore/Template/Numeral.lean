import Polystore.Decimal.Notation
import Polystore.Template.Layout

/-!
Numbers by layout. A numeral is a sign, a mark of its base, digits that may be grouped, and the
rest behind them: fraction, exponent, percent sign. Zeros as fill count as digits, so they are
grouped too.
-/

namespace Polystore.Template

structure Numeral where
  negative : Bool
  mark : List Char
  digits : List Char
  rest : List Char

namespace Numeral

/-- Puts a separator between groups of `size` digits; the list is in reverse. -/
def separate (separator : Char) (size : Nat) : Nat → List Char → List Char
  | _, [] => []
  | 0, c :: rest => separator :: c :: separate separator size (size - 1) rest
  | left + 1, c :: rest => c :: separate separator size left rest

/-- The digits in groups, with as many zeros in front as `least` characters need. No separator
comes first, so the result may be one character longer. -/
def group (separator : Char) (size least : Nat) (digits : List Char) : List Char :=
  let zeros := (least - (least - 1) / (size + 1)) - digits.length
  (separate separator size size (List.replicate zeros '0' ++ digits).reverse).reverse

def signs (layout : Layout) (negative : Bool) : List Char :=
  if negative then ['-']
  else match layout.sign with
    | some '+' => ['+']
    | some ' ' => [' ']
    | _ => []

/-- Lays out a numeral. -/
def layOut (layout : Layout) (n : Numeral) : List Char :=
  let sign := signs layout n.negative
  let fixed := sign.length + n.mark.length + Text.size n.rest
  let least :=
    if layout.fill = ['0'] ∧ layout.align = .afterSign then layout.width - fixed else 0
  let size := if layout.kind.any (· ∈ "boxX".toList) then 4 else 3
  let digits :=
    if n.digits.isEmpty then []
    else match layout.separator with
      | some separator => group separator size least n.digits
      | none => List.replicate (least - n.digits.length) '0' ++ n.digits
  let blanks := layout.width - (fixed + digits.length)
  if layout.align = .afterSign then
    sign ++ n.mark ++ layout.filled blanks ++ digits ++ n.rest
  else layout.pad (sign ++ n.mark ++ digits ++ n.rest)

/-- The base of a kind of integers. -/
def base : Option Char → Nat
  | some 'b' => 2
  | some 'o' => 8
  | some 'x' | some 'X' => 16
  | _ => 10

/-- The numeral of an integer in the base of its kind. -/
def ofInt (layout : Layout) (i : Int) : Numeral :=
  let upper (cs : List Char) : List Char :=
    if layout.kind = some 'X' then cs.map Char.toUpper else cs
  let mark := match layout.kind with
    | some k => if layout.alternate ∧ k ∈ "boxX".toList then ['0', k] else []
    | none => []
  ⟨i < 0, mark, upper (Nat.toDigits (base layout.kind) i.natAbs), []⟩

/-- Shows a point in front of the exponent, or at the end, where there is none. -/
def withPoint (cs : List Char) : List Char :=
  let whole := cs.takeWhile Char.isDigit
  let rest := cs.drop whole.length
  if rest.head? = some '.' then cs else whole ++ '.' :: rest

/-- The general form: `precision` significant digits, as few as needed unless `full`, in
scientific notation for exponents outside the precision. -/
def general (precision : Nat) (full pointed : Bool) (significand : Nat) (exponent : Int)
    : List Char :=
  let precision := max precision 1
  let d := Decimal.significant precision significand exponent
  let bound : Int := if pointed then (precision : Int) - 1 else precision
  if d.point ≤ -4 ∨ bound < d.point then
    Decimal.scientific 'e' (if full then precision - 1 else 0) d
  else
    let least := if full then (precision - d.point).toNat else 0
    Decimal.positional (if pointed then max least 1 else least) d

/-- The kinds of notation of doubles, besides the plain one. -/
def doubleKinds : List Char := "eEfFgGn%".toList

/-- The digits of a finite double in a kind of notation. -/
def ofFinite (layout : Layout) (significand : Nat) (exponent : Int) : List Char :=
  let precision := layout.precision.getD 6
  match layout.kind, layout.precision with
  | some 'e', _ | some 'E', _ =>
    Decimal.scientific 'e' precision (Decimal.significant (precision + 1) significand exponent)
  | some 'f', _ | some 'F', _ | some '%', _ =>
    Decimal.fixed precision (Decimal.places precision significand exponent)
  | some _, _ => general precision layout.alternate false significand exponent
  | none, some precision => general precision layout.alternate true significand exponent
  | none, none => Decimal.plain significand exponent

def isZero (cs : List Char) : Bool :=
  (cs.takeWhile (· ≠ 'e')).all fun c => c = '0' || c = '.'

/-- The numeral of a double. A percentage is a hundred times the double, rounded to a double. -/
def ofDouble (layout : Layout) (x : Binary64) : Numeral :=
  let upper (cs : List Char) : List Char :=
    if layout.kind.any (· ∈ "EFG".toList) then cs.map Char.toUpper else cs
  let percent := if layout.kind = some '%' then ['%'] else []
  match if layout.kind = some '%' then x.timesNat 100 else x with
  | .finite negative significand exponent =>
    let cs := ofFinite layout significand exponent
    let body := if layout.alternate then withPoint cs else cs
    let whole := body.takeWhile Char.isDigit
    { negative := negative && !(layout.unsignedZero && isZero body)
      mark := []
      digits := whole
      rest := upper (body.drop whole.length) ++ percent }
  | .infinite negative => ⟨negative, [], [], upper "inf".toList ++ percent⟩
  | .nan => ⟨false, [], [], upper "nan".toList ++ percent⟩

end Numeral

namespace Layout

/-- Lays out a numeral. -/
def numeral (layout : Layout) (n : Numeral) : Except Fault (List Char) :=
  if layout.isTooWide then .error .tooWide else .ok (n.layOut layout)

/-- Lays out a double. -/
def double (layout : Layout) (subject : Subject) (x : Binary64) : Except Fault (List Char) :=
  match layout.kind.filter (· ∉ Numeral.doubleKinds) with
  | some kind => .error (.unknownKind kind.toNat subject)
  | none =>
    if layout.precision.any (0x80000000 ≤ ·) then .error .tooPrecise
    else layout.numeral (.ofDouble layout x)

/-- Lays out an integer as the character of that code. -/
def character (layout : Layout) (i : Int) : Except Fault (List Char) :=
  if layout.sign.isSome then .error .signForCharacter
  else if layout.alternate then .error .alternateForCharacter
  else if i < -0x8000000000000000 ∨ 0x8000000000000000 ≤ i then .error .tooLargeForCharacter
  else if i < 0 ∨ 0x10FFFF < i then .error .noCharacter
  else layout.numeral ⟨false, [], [], Text.ofCode i.toNat⟩

/-- Lays out an integer. Kinds of doubles lay out the nearest double; only decimal digits can be too
many. -/
def whole (layout : Layout) (subject : Subject) (i : Int) : Except Fault (List Char) :=
  let k := layout.kind.getD 'd'
  if k ∈ "eEfFgG%".toList then
    match Binary64.ofInt i with
    | .infinite _ => .error .tooLargeForFloat
    | x => layout.double subject x
  else if k ∉ "bcdoxXn".toList then .error (.unknownKind k.toNat subject)
  else if layout.precision.isSome then .error .precisionForWhole
  else if layout.unsignedZero then .error .unsignedZeroForWhole
  else if k = 'c' then layout.character i
  else if Numeral.base layout.kind = 10 ∧ !Value.fits i then .error (.unwritable .tooManyDigits)
  else layout.numeral (.ofInt layout i)

end Layout

end Polystore.Template
