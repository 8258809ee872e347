import Polystore.Text.Surrogate

/-!
Text templates. A template is plain text with replacement fields in braces; a brace that is text
is doubled. A field has a name and may have a conversion mark behind `!` and a layout behind `:`.
A malformed template still has the pieces in front of its defect.
-/

namespace Polystore.Template

/-- The texts of a replacement field. -/
structure Field where
  name : List Char
  conversion : Option (List Char)
  layout : List Char
  deriving DecidableEq

inductive Piece where
  | text (cs : List Char)
  | field (f : Field)
  deriving DecidableEq

/-- What makes a template malformed. -/
inductive Defect where
  | loneClose
  | loneOpen
  | unclosedField
  | openInName
  | missingConversion
  | missingColon
  | unclosedLayout
  deriving DecidableEq

namespace Defect

def message : Defect → String
  | loneClose => "Single '\x7d' encountered in format string"
  | loneOpen => "Single '\x7b' encountered in format string"
  | unclosedField => "expected '\x7d' before end of string"
  | openInName => "unexpected '\x7b' in field name"
  | missingConversion => "end of string while looking for conversion specifier"
  | missingColon => "expected ':' after conversion specifier"
  | unclosedLayout => "unmatched '\x7b' in format spec"

end Defect

/-- The part of a template that is being read, with its characters so far in reverse. A bracket in
a name hides every mark up to its end; braces in a layout nest. -/
inductive Part where
  | text (read : List Char)
  | name (read : List Char) (bracketed : Bool)
  | conversion (name : List Char)
  | afterConversion (name mark : List Char)
  | layout (name : List Char) (mark : Option (List Char)) (depth : Nat) (read : List Char)

/-- The pieces of a template and the defect behind them, if there is one. -/
structure Reading where
  pieces : List Piece
  defect : Option Defect

namespace Reading

def stop (defect : Defect) : Reading := ⟨[], some defect⟩

def before (piece : Piece) (reading : Reading) : Reading :=
  { reading with pieces := piece :: reading.pieces }

def beforeText (read : List Char) (reading : Reading) : Reading :=
  if read.isEmpty then reading else reading.before (.text read.reverse)

end Reading

open Reading in
/-- Reads on within a part. -/
def readFrom : Part → List Char → Reading
  | .text read, [] => beforeText read ⟨[], none⟩
  | .text read, '\x7b' :: '\x7b' :: rest => readFrom (.text ('\x7b' :: read)) rest
  | .text read, '\x7d' :: '\x7d' :: rest => readFrom (.text ('\x7d' :: read)) rest
  | .text _, ['\x7b'] => stop .loneOpen
  | .text read, '\x7b' :: rest => beforeText read (readFrom (.name [] false) rest)
  | .text read, c :: rest =>
    if c = '\x7d' then stop .loneClose else readFrom (.text (c :: read)) rest
  | .name _ _, [] => stop .unclosedField
  | .name read true, c :: rest => readFrom (.name (c :: read) (c != ']')) rest
  | .name read false, c :: rest =>
    if c = '\x7b' then stop .openInName
    else if c = '\x7d' then before (.field ⟨read.reverse, none, []⟩) (readFrom (.text []) rest)
    else if c = ':' then readFrom (.layout read.reverse none 1 []) rest
    else if c = '!' then readFrom (.conversion read.reverse) rest
    else readFrom (.name (c :: read) (c == '[')) rest
  | .conversion _, [] => stop .missingConversion
  | .conversion name, [c] => readFrom (.afterConversion name [c]) []
  | .conversion name, c :: d :: rest =>
    if c = Text.keptMark then readFrom (.afterConversion name [c, d]) rest
    else readFrom (.afterConversion name [c]) (d :: rest)
  | .afterConversion _ _, [] => stop .unclosedLayout
  | .afterConversion name mark, c :: rest =>
    if c = '\x7d' then before (.field ⟨name, some mark, []⟩) (readFrom (.text []) rest)
    else if c = ':' then readFrom (.layout name (some mark) 1 []) rest
    else stop .missingColon
  | .layout _ _ _ _, [] => stop .unclosedLayout
  | .layout name mark depth read, c :: rest =>
    if c = '\x7d' then
      if depth ≤ 1 then before (.field ⟨name, mark, read.reverse⟩) (readFrom (.text []) rest)
      else readFrom (.layout name mark (depth - 1) (c :: read)) rest
    else readFrom (.layout name mark (if c = '\x7b' then depth + 1 else depth) (c :: read)) rest

/-- Reads a template. -/
def read (template : List Char) : Reading := readFrom (.text []) template

/-- The pieces of a well-formed template. -/
def pieces (template : List Char) : Except Defect (List Piece) :=
  match read template with
  | ⟨_, some defect⟩ => .error defect
  | ⟨pieces, none⟩ => .ok pieces

/-- The name of a field that has one. -/
def Piece.name? : Piece → Option String
  | .field f => if f.name.isEmpty then none else some (String.ofList f.name)
  | .text _ => none

/-- The names of the fields of a template, in order and with repetitions; fields within layouts
are not counted. -/
def fieldNames (template : String) : Except Defect (List String) :=
  (·.filterMap Piece.name?) <$> pieces template.toList

end Polystore.Template
