import Polystore.Text.Digit
import Polystore.Text.Surrogate
import Polystore.Value.Text

/-!
Layouts of replacement fields: fill and alignment, sign, width, grouping, precision and kind. What
a layout may hold depends on the sort of value it is for, which also names it in messages.
-/

namespace Polystore.Template

/-- The sorts of values that have layouts. -/
inductive Subject where
  | text
  | whole
  | truth
  | float
  deriving DecidableEq

namespace Subject

def name : Subject → String
  | text => "str"
  | whole => "int"
  | truth => "bool"
  | float => "float"

end Subject

inductive Align where
  | left
  | right
  | center
  | afterSign
  deriving DecidableEq

namespace Align

def ofChar? : Char → Option Align
  | '<' => some left
  | '>' => some right
  | '^' => some center
  | '=' => some afterSign
  | _ => none

end Align

structure Layout where
  fill : List Char
  align : Align
  sign : Option Char
  unsignedZero : Bool
  alternate : Bool
  width : Nat
  separator : Option Char
  precision : Option Nat
  kind : Option Char

namespace Layout

/-- Why a layout is refused. -/
inductive Fault where
  | invalid (layout : List Char) (subject : Subject)
  | unknownKind (kind : Nat) (subject : Subject)
  | tooManyDigits
  | missingPrecision
  | bothSeparators
  | separatorWithKind (separator : Char) (kind : Nat)
  | signForText
  | spaceForText
  | unsignedZeroForText
  | alternateForText
  | afterSignForText
  | precisionForWhole
  | unsignedZeroForWhole
  | signForCharacter
  | alternateForCharacter
  | tooLargeForFloat
  | tooLargeForCharacter
  | noCharacter
  | tooPrecise
  | tooWide
  | unwritable (failure : Value.WriteFailure)
  deriving DecidableEq

namespace Fault

/-- A code in a message: its character when that is visible ASCII, otherwise its digits. -/
def shown (code bound : Nat) : String :=
  if 32 < code ∧ code < bound then (Char.ofNat code).toString
  else "\\x" ++ String.ofList (Nat.toDigits 16 code)

def message : Fault → String
  | invalid layout subject =>
    s!"Invalid format specifier '{String.ofList layout}' for object of type '{subject.name}'"
  | unknownKind kind subject =>
    s!"Unknown format code '{shown kind 128}' for object of type '{subject.name}'"
  | tooManyDigits => "Too many decimal digits in format string"
  | missingPrecision => "Format specifier missing precision"
  | bothSeparators => "Cannot specify both ',' and '_'."
  | separatorWithKind separator kind =>
    s!"Cannot specify '{separator}' with '{shown kind 128}'."
  | signForText => "Sign not allowed in string format specifier"
  | spaceForText => "Space not allowed in string format specifier"
  | unsignedZeroForText => "Negative zero coercion (z) not allowed in string format specifier"
  | alternateForText => "Alternate form (#) not allowed in string format specifier"
  | afterSignForText => "'=' alignment not allowed in string format specifier"
  | precisionForWhole => "Precision not allowed in integer format specifier"
  | unsignedZeroForWhole => "Negative zero coercion (z) not allowed in integer format specifier"
  | signForCharacter => "Sign not allowed with integer format specifier 'c'"
  | alternateForCharacter => "Alternate form (#) not allowed with integer format specifier 'c'"
  | tooLargeForFloat => "int too large to convert to float"
  | tooLargeForCharacter => "Python int too large to convert to C long"
  | noCharacter => "%c arg not in range(0x110000)"
  | tooPrecise => "precision too big"
  | tooWide => ""
  | unwritable failure => failure.message

end Fault

/-- Takes the first character if it is admitted. -/
def takeIf (admits : Char → Bool) : List Char → Option Char × List Char
  | [] => (none, [])
  | c :: rest => if admits c then (some c, rest) else (none, c :: rest)

/-- Takes a fill character and an alignment, or an alignment alone. -/
def takeAlign (cs : List Char) : Option (List Char) × Option Align × List Char :=
  let (first, rest) := Text.takeCode cs
  match rest.head?.bind Align.ofChar?, cs.head?.bind Align.ofChar? with
  | some align, _ => (some first, some align, rest.tail)
  | none, some align => (none, some align, cs.tail)
  | none, none => (none, none, cs)

/-- Takes the digits of a number below `2 ^ 63`; they may be of any script. -/
def takeNumber (cs : List Char) : Except Fault (Option Nat × List Char) :=
  let (ds, rest) := Text.takeDigits cs
  let n := Text.ofDigits ds
  if 0x8000000000000000 ≤ n then .error .tooManyDigits
  else .ok (if ds.isEmpty then none else some n, rest)

/-- Takes a precision behind a point. -/
def takePrecision : List Char → Except Fault (Option Nat × List Char)
  | '.' :: rest =>
    match takeNumber rest with
    | .error fault => .error fault
    | .ok (none, _) => .error .missingPrecision
    | .ok (some n, rest) => .ok (some n, rest)
  | cs => .ok (none, cs)

/-- Takes a separator of digit groups; only one of the two may stand there. -/
def takeSeparator (cs : List Char) : Except Fault (Option Char × List Char) :=
  let (comma, rest) := takeIf (· == ',') cs
  let (underscore, rest) := takeIf (· == '_') rest
  match comma, underscore with
  | some _, some _ => .error .bothSeparators
  | none, some _ => if rest.head? = some ',' then .error .bothSeparators else .ok (some '_', rest)
  | comma, none => .ok (comma, rest)

/-- Whether digits of a kind may be grouped by a separator. Text has no digits, unless its kind is
given as nothing. -/
def grouped (separator : Char) (kind : Option Nat) (subject : Subject) : Bool :=
  match kind with
  | none => subject ≠ .text
  | some k =>
    k ∈ "\x00deEfFgG%".toList.map Char.toNat
      || (separator == '_' && k ∈ "boxX".toList.map Char.toNat)

/-- Reads a layout for a sort of values. Text stands to the left and numbers to the right unless
the layout says otherwise; a leading zero asks for zeros as fill, behind the sign of a number. -/
def read (subject : Subject) (cs : List Char) : Except Fault Layout := do
  let (fill, align, rest) := takeAlign cs
  let (sign, rest) := takeIf (· ∈ [' ', '+', '-']) rest
  let (unsignedZero, rest) := takeIf (· == 'z') rest
  let (alternate, rest) := takeIf (· == '#') rest
  let (zero, rest) := takeIf (fun c => fill.isNone && c == '0') rest
  let (width, rest) ← takeNumber rest
  let (separator, rest) ← takeSeparator rest
  let (precision, rest) ← takePrecision rest
  let kind ← match Text.units rest with
    | [] => .ok none
    | [kind] => .ok (some kind)
    | _ => .error (.invalid cs subject)
  match separator with
  | some s =>
    if grouped s (kind.map Text.codeOf) subject then .ok ()
    else .error (.separatorWithKind s (kind.elim 's'.toNat Text.codeOf))
  | none => .ok ()
  let kind ← match kind with
    | none => .ok (if subject = .text then some 's' else none)
    | some [k] => .ok (if k = '\x00' ∧ subject = .float then none else some k)
    | some unit => .error (.unknownKind (Text.codeOf unit) subject)
  let standard := if subject = .text then .left else if zero.isSome then .afterSign else .right
  return {
    fill := fill.getD [if zero.isSome then '0' else ' ']
    align := align.getD standard
    sign, unsignedZero := unsignedZero.isSome, alternate := alternate.isSome
    width := width.getD 0, separator, precision, kind }

/-- Whether the width asks for more characters than can be held. -/
def isTooWide (layout : Layout) : Bool := 0x40000000 ≤ layout.width

/-- How many of some blanks go to the left. -/
def leftShare (layout : Layout) (blanks : Nat) : Nat :=
  match layout.align with
  | .right => blanks
  | .center => blanks / 2
  | .left | .afterSign => 0

/-- The fill, a number of times. -/
def filled (layout : Layout) (times : Nat) : List Char := (List.replicate times layout.fill).flatten

/-- Fills a text up to the width. -/
def pad (layout : Layout) (cs : List Char) : List Char :=
  let blanks := layout.width - Text.size cs
  let left := layout.leftShare blanks
  layout.filled left ++ cs ++ layout.filled (blanks - left)

/-- Lays out a text, cut to the precision. -/
def text (layout : Layout) (cs : List Char) : Except Fault (List Char) :=
  match layout.kind, layout.sign with
  | some 's', none =>
    if layout.unsignedZero then .error .unsignedZeroForText
    else if layout.alternate then .error .alternateForText
    else if layout.align = .afterSign then .error .afterSignForText
    else if layout.isTooWide then .error .tooWide
    else .ok (layout.pad (match layout.precision with
      | some n => ((Text.units cs).take n).flatten
      | none => cs))
  | some 's', some sign => .error (if sign = ' ' then .spaceForText else .signForText)
  | kind, _ => .error (.unknownKind (kind.getD 's').toNat .text)

end Layout

end Polystore.Template
