import Polystore.Json.Failure
import Polystore.Text.Blank
import Polystore.Text.Digit
import Polystore.Value.Text

/-!
Whole numbers that values stand for. A float loses what is behind its point; a text holds digits of
any script between blanks, perhaps behind a sign and in groups that underscores part.
-/

namespace Polystore

namespace Value

/-- Why a value stands for no whole number. -/
inductive WholeFailure where
  | unreadable (text : String)
  | tooManyDigits (count : Nat)
  | infinite
  | undefined
  | noNumber
  deriving DecidableEq

namespace WholeFailure

def message : WholeFailure → String
  | unreadable source =>
    let shown := String.ofList ((Text.quoted source).toList.take 200)
    s!"invalid literal for int() with base 10: {shown}"
  | tooManyDigits count => (Json.Failure.tooManyDigits count).message ""
  | infinite => "cannot convert float infinity to integer"
  | undefined => "cannot convert float NaN to integer"
  | noNumber => "the value is no number"

end WholeFailure

/-- The sign at the start of a text, as whether it is a minus, and what follows it. -/
def takeSign : List Char → Bool × List Char
  | '-' :: rest => (true, rest)
  | '+' :: rest => (false, rest)
  | cs => (false, cs)

/-- Whether a character may stand among the digits of a text. -/
def isInNumber (c : Char) : Bool := c = '_' || (Text.digit? c).isSome

/-- Reads a whole number. Too many digits count more than what follows them. -/
def wholeOfText (s : String) : Except WholeFailure Int :=
  let (negative, unsigned) := takeSign (s.toList.dropWhile Text.isBlank)
  let number := unsigned.takeWhile isInNumber
  let digits := number.filterMap Text.digit?
  let size : Int := Text.ofDigits digits
  if (number.splitOn '_').any List.isEmpty then .error (.unreadable s)
  else if Json.digitLimit < digits.length then .error (.tooManyDigits digits.length)
  else if (unsigned.drop number.length).all Text.isBlank then
    .ok (if negative then -size else size)
  else .error (.unreadable s)

def wholeOfDouble (x : Binary64) : Except WholeFailure Int :=
  match x with
  | .nan => .error .undefined
  | .infinite _ => .error .infinite
  | .finite negative significand exponent =>
    let size : Int := (Binary64.ratio significand exponent).floor
    .ok (if negative then -size else size)

/-- The whole number that a value stands for. -/
def whole : Value → Except WholeFailure Int
  | int i => .ok i
  | bool b => .ok (if b then 1 else 0)
  | float x => wholeOfDouble x
  | text s => wholeOfText s
  | _ => .error .noNumber

end Value

end Polystore
