import Polystore.Decoding.Issue
import Polystore.Text.Blank

/-!
Texts of integers. A text that is no plain integer as it stands is trimmed, loses its sign, the
zeros and underscores in front of its first significant character, a fraction of zeros and the
underscores that stand singly between other characters, one after the other; what is left has to be
a plain integer. What stands behind leading zeros is not looked at before that, so a minus may stand
there as well.
-/

namespace Polystore.Decoding

/-- The most digits an integer may have. -/
def digitLimit : Nat := 4300

/-- What is left of a numeral behind its first zero and the zeros and underscores that follow.
The last of those stays in front of a point, and where nothing else comes. -/
def behindZeros? (last : Char) : List Char → Option (List Char)
  | [] => some [last]
  | c :: rest =>
    if c = '0' ∨ c = '_' then behindZeros? c rest
    else if c = '.' then some (last :: c :: rest)
    else if c.isDigit ∨ c = '-' then some (c :: rest)
    else none

/-- A numeral, which begins with a digit, without its leading zeros. -/
def withoutZeros? : List Char → Option (List Char)
  | [] => none
  | c :: rest =>
    if c = '0' then behindZeros? c rest else if c.isDigit then some (c :: rest) else none

/-- The characters without a point and the zeros behind it, if nothing else is there. -/
def withoutFraction (cs : List Char) : List Char :=
  match cs.dropWhile (· ≠ '.') with
  | [] => cs
  | _ :: zeros =>
    if !zeros.isEmpty && zeros.all (· = '0') then cs.takeWhile (· ≠ '.') else cs

/-- The characters without underscores, if each of them stands singly between others. -/
def withoutUnderscores (cs : List Char) : List Char :=
  let groups := cs.splitOn '_'
  if groups.all (!·.isEmpty) then groups.flatten else cs

/-- The sign of a numeral, as whether it is negative, and what follows it; a minus may not stand
behind another sign. -/
def unsigned? : List Char → Option (Bool × List Char)
  | '+' :: '-' :: _ => none
  | '+' :: rest => some (false, rest)
  | '-' :: rest => some (true, rest)
  | cs => some (false, cs)

/-- Reads an integer without zeros in front and without anything but digits behind its sign. Too
many digits count more than what follows them. -/
def plainInteger (cs : List Char) : Except Complaint Int :=
  let (negative, rest) := match cs with
    | '-' :: rest => (true, rest)
    | _ => (false, cs)
  match rest.takeWhile Char.isDigit with
  | [] => .error .unreadableInteger
  | d :: ds =>
    let size : Int := Decimal.ofDigits 10 (d :: ds)
    if d = '0' ∧ !ds.isEmpty then .error .unreadableInteger
    else if digitLimit < (d :: ds).length then .error .oversizeInteger
    else if (d :: ds).length < rest.length then .error .unreadableInteger
    else .ok (if negative then -size else size)

/-- A text cut down to what has to be a plain integer. -/
def cutDown? (cs : List Char) : Option (List Char) := do
  let (negative, numeral) ← unsigned? (Text.trim cs)
  let digits := withoutUnderscores (withoutFraction (← withoutZeros? numeral))
  return if negative then '-' :: digits else digits

/-- Reads an integer from a text that is no plain one. It is not told whether that is too large. -/
def cutDownInteger (cs : List Char) : Except Complaint Int :=
  match (cutDown? cs).map plainInteger with
  | some (.ok i) => .ok i
  | _ => .error .unreadableInteger

/-- Reads an integer from its text. -/
def integerOfText (s : String) : Except Complaint Int :=
  match plainInteger s.toList with
  | .error .unreadableInteger => cutDownInteger s.toList
  | read => read

end Polystore.Decoding
