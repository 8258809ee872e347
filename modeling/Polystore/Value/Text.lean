import Polystore.Decimal.Notation
import Polystore.Json.Failure
import Polystore.Text.Quoted
import Polystore.Value

/-!
Values as text. `inspect` shows a value so that text is told from other values; `display` is the
same but for text itself, which stands as it is. An integer of too many digits is never written, and
neither is a value that holds one.
-/

namespace Polystore.Value

def intText (i : Int) : String := toString i

mutual

def inspect : Value → String
  | null => "None"
  | bool b => if b then "True" else "False"
  | int i => intText i
  | float x => x.toText
  | text s => Text.quoted s
  | octets bytes => String.ofList (Text.quotedOctets bytes)
  | list items => "[" ++ ", ".intercalate (inspectItems items) ++ "]"
  | object members => "\x7b" ++ ", ".intercalate (inspectMembers members) ++ "\x7d"

def inspectItems : List Value → List String
  | [] => []
  | x :: xs => inspect x :: inspectItems xs

def inspectMembers : List (String × Value) → List String
  | [] => []
  | (name, x) :: xs => (Text.quoted name ++ ": " ++ inspect x) :: inspectMembers xs

end

def display : Value → String
  | text s => s
  | x => inspect x

/-- Names as they are listed in messages. -/
def inspectNames (names : List String) : String := (list (names.map text)).inspect

/-- Why a value is not written. -/
inductive WriteFailure where
  | tooManyDigits
  deriving DecidableEq

namespace WriteFailure

def message : WriteFailure → String
  | tooManyDigits =>
    s!"Exceeds the limit ({Json.digitLimit} digits) for integer string conversion; "
      ++ "use sys.set_int_max_str_digits() to increase the limit"

end WriteFailure

/-- Whether an integer has no more digits than can be written. -/
def fits (i : Int) : Bool := (Nat.toDigits 10 i.natAbs).length ≤ Json.digitLimit

mutual

/-- Whether all integers in a value can be written. -/
def isWritable : Value → Bool
  | int i => fits i
  | list items => itemsWritable items
  | object members => membersWritable members
  | _ => true

def itemsWritable : List Value → Bool
  | [] => true
  | x :: xs => isWritable x && itemsWritable xs

def membersWritable : List (String × Value) → Bool
  | [] => true
  | (_, x) :: xs => isWritable x && membersWritable xs

end

/-- What is made of a value that can be written. -/
def ifWritable {α : Type} (v : Value) (a : α) : Except WriteFailure α :=
  if v.isWritable then .ok a else .error .tooManyDigits

/-- Writes a value so that text is told from other values. -/
def writeInspected (v : Value) : Except WriteFailure String := v.ifWritable v.inspect

/-- Writes a value, text as it stands. -/
def write (v : Value) : Except WriteFailure String := v.ifWritable v.display

end Polystore.Value
