import Polystore.Text.Surrogate

/-!
Why a text is no JSON document. A failure is a cause and the position of the character where it
shows; the message gives that position also as line and column.
-/

namespace Polystore.Json

inductive Cause where
  | valueExpected
  | commaExpected
  | colonExpected
  | nameExpected
  | unterminatedText
  | controlCharacter
  | unknownEscape
  | brokenCodeEscape
  | extraData
  | byteOrderMark
  deriving DecidableEq

namespace Cause

def message : Cause → String
  | valueExpected => "Expecting value"
  | commaExpected => "Expecting ',' delimiter"
  | colonExpected => "Expecting ':' delimiter"
  | nameExpected => "Expecting property name enclosed in double quotes"
  | unterminatedText => "Unterminated string starting at"
  | controlCharacter => "Invalid control character at"
  | unknownEscape => "Invalid \\escape"
  | brokenCodeEscape => "Invalid \\uXXXX escape"
  | extraData => "Extra data"
  | byteOrderMark => "Unexpected UTF-8 BOM (decode using utf-8-sig)"

end Cause

/-- What holds values. -/
inductive Container where
  | list
  | object
  deriving DecidableEq

namespace Container

def name : Container → String
  | list => "array"
  | object => "object"

end Container

/-- Either the text is malformed at a position, or it holds an integer of too many digits, or a
list or an object is opened within too many others. -/
inductive Failure where
  | malformed (cause : Cause) (position : Nat)
  | tooManyDigits (count : Nat)
  | tooDeep (container : Container)
  deriving DecidableEq

/-- The most digits an integer may have. -/
def digitLimit : Nat := 4300

namespace Failure

def message (source : String) : Failure → String
  | malformed cause position =>
    let before := source.toList.take position
    let line := before.count '\n' + 1
    let column := Text.size (before.reverse.takeWhile (· ≠ '\n')).reverse + 1
    s!"{cause.message}: line {line} column {column} (char {Text.size before})"
  | tooManyDigits count =>
    s!"Exceeds the limit ({digitLimit} digits) for integer string conversion: "
      ++ s!"value has {count} digits; use sys.set_int_max_str_digits() to increase the limit"
  | tooDeep container =>
    s!"maximum recursion depth exceeded while decoding a JSON {container.name} "
      ++ "from a unicode string"

end Failure

end Polystore.Json
