import Polystore.Json.Failure
import Polystore.Text.Surrogate
import Polystore.Value

/-!
The tokens of JSON text. Numbers take as many characters as they can; a number with a point or an
exponent is a float, any other an integer. A token that cannot be read is a token too, since what
is wrong depends on what is expected in its place.
-/

namespace Polystore.Json

inductive Token where
  | openList
  | closeList
  | openObject
  | closeObject
  | comma
  | colon
  | text (s : String)
  | literal (v : Value)
  | brokenText (failure : Failure)
  | brokenNumber (failure : Failure)
  | unknown
  deriving Inhabited

namespace Token

def isBlank (c : Char) : Bool := c = ' ' || c = '\t' || c = '\n' || c = '\r'

/-- The characters written with a backslash and one letter. -/
def letterEscape? : Char → Option Char
  | '"' => some '"'
  | '\\' => some '\\'
  | '/' => some '/'
  | 'b' => some '\x08'
  | 'f' => some '\x0c'
  | 'n' => some '\n'
  | 'r' => some '\r'
  | 't' => some '\t'
  | _ => none

/-- Reads four digits in base sixteen. -/
def code? : List Char → Option Nat
  | [a, b, c, d] => do
    let a ← Decimal.digitValue? a
    let b ← Decimal.digitValue? b
    let c ← Decimal.digitValue? c
    let d ← Decimal.digitValue? d
    return ((a * 16 + b) * 16 + c) * 16 + d
  | _ => none

/-- Reads the escape behind a backslash at a position: what it stands for and how many characters
it takes. Two escapes that spell a pair of code units are read as one character; a code is only
read where at least one character follows it. -/
def escape (start position : Nat) : List Char → Except Failure (List Char × Nat)
  | [] => .error (.malformed .unterminatedText start)
  | 'u' :: rest =>
    if (rest.drop 4).isEmpty then .error (.malformed .brokenCodeEscape (position + 1))
    else
      match code? (rest.take 4) with
      | none => .error (.malformed .brokenCodeEscape (position + 1))
      | some high =>
        match Text.isHighSurrogate high, rest.drop 4 with
        | true, '\\' :: 'u' :: more =>
          if (more.drop 4).isEmpty then .ok (Text.ofCode high, 5)
          else
            match code? (more.take 4) with
            | none => .error (.malformed .brokenCodeEscape (position + 7))
            | some low =>
              if Text.isLowSurrogate low then .ok (Text.ofCode (Text.pairCode high low), 11)
              else .ok (Text.ofCode high, 5)
        | _, _ => .ok (Text.ofCode high, 5)
  | c :: _ =>
    match letterEscape? c with
    | some d => .ok ([d], 1)
    | none => .error (.malformed .unknownEscape position)

/-- Reads the text that begins with the quote at `start`, from a position on: its characters and
the position behind its closing quote. -/
def textFrom (start : Nat) (read : List Char) : Nat → Nat → List Char
    → Except Failure (String × Nat)
  | _, _, [] => .error (.malformed .unterminatedText start)
  | skip + 1, position, _ :: rest => textFrom start read skip (position + 1) rest
  | 0, position, c :: rest =>
    if c = '"' then .ok (String.ofList read.reverse, position + 1)
    else if c = '\\' then
      match escape start position rest with
      | .error failure => .error failure
      | .ok (cs, taken) => textFrom start (cs.reverse ++ read) taken (position + 1) rest
    else if c < ' ' then .error (.malformed .controlCharacter position)
    else textFrom start (c :: read) 0 (position + 1) rest

/-- The digits behind a mark, if there is at least one. -/
def digitsBehind (mark : Char) : List Char → List Char
  | [] => []
  | c :: rest => if c = mark then rest.takeWhile Char.isDigit else []

/-- The exponent at the start of a text: its value and length. -/
def exponent? : List Char → Option (Int × Nat)
  | [] => none
  | mark :: rest =>
    if mark = 'e' ∨ mark = 'E' then
      let (signed, negative) := match rest with
        | '-' :: _ => (1, true)
        | '+' :: _ => (1, false)
        | _ => (0, false)
      let digits := (rest.drop signed).takeWhile Char.isDigit
      if digits.isEmpty then none
      else
        let size : Int := Decimal.ofDigits 10 digits
        some (if negative then -size else size, 1 + signed + digits.length)
    else none

/-- The unsigned number at the start of a text, with its length. -/
def number? (negative : Bool) (cs : List Char) : Option (Token × Nat) :=
  let whole := match cs with
    | '0' :: _ => ['0']
    | _ => cs.takeWhile Char.isDigit
  if whole.isEmpty then none
  else
    let rest := cs.drop whole.length
    let fraction := digitsBehind '.' rest
    let behind := if fraction.isEmpty then 0 else fraction.length + 1
    match fraction.isEmpty, exponent? (rest.drop behind) with
    | true, none =>
      if digitLimit < whole.length then
        some (.brokenNumber (.tooManyDigits whole.length), whole.length)
      else
        let size : Int := Decimal.ofDigits 10 whole
        some (.literal (.int (if negative then -size else size)), whole.length)
    | _, scale =>
      let (power, length) := scale.getD (0, 0)
      let x := Binary64.ofDecimal negative (Decimal.ofDigits 10 (whole ++ fraction))
        (power - fraction.length)
      some (.literal (.float x), whole.length + behind + length)

/-- The words that stand for values. -/
def words : List (String × Value) := [
  ("null", .null), ("true", .bool true), ("false", .bool false), ("NaN", .float .nan),
  ("Infinity", .float (.infinite false)), ("-Infinity", .float (.infinite true))]

/-- The word at the start of a text, with its length. -/
def word? (cs : List Char) : Option (Token × Nat) :=
  words.findSome? fun (word, v) =>
    if word.toList.isPrefixOf cs then some (.literal v, word.length) else none

/-- The token at the start of a text, at a position, and how many characters it takes. -/
def first (position : Nat) : List Char → Token × Nat
  | [] => (.unknown, 0)
  | '[' :: _ => (.openList, 1)
  | ']' :: _ => (.closeList, 1)
  | '\x7b' :: _ => (.openObject, 1)
  | '\x7d' :: _ => (.closeObject, 1)
  | ',' :: _ => (.comma, 1)
  | ':' :: _ => (.colon, 1)
  | '"' :: rest =>
    match textFrom position [] 0 (position + 1) rest with
    | .ok (s, finish) => (.text s, finish - position)
    | .error failure => (.brokenText failure, 1)
  | '-' :: rest =>
    match number? true rest with
    | some (token, length) => (token, length + 1)
    | none => (word? ('-' :: rest)).getD (.unknown, 1)
  | cs => ((number? false cs).or (word? cs)).getD (.unknown, 1)

end Token

end Polystore.Json
