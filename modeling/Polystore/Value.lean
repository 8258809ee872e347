import Polystore.Decimal.Binary64
import Polystore.Entries
import Polystore.Text.Surrogate

/-!
Values of rows, contexts and query literals. Integers have any size, floats are doubles, and the
members of an object keep their order.
-/

namespace Polystore

inductive Value where
  | null
  | bool (b : Bool)
  | int (i : Int)
  | float (x : Binary64)
  | text (s : String)
  | octets (bytes : List UInt8)
  | list (items : List Value)
  | object (members : List (String × Value))
  deriving Inhabited

/-- A row: its values by column or label. -/
abbrev Row := Entries String Value

namespace Value

def isNull : Value → Bool
  | null => true
  | _ => false

def isText : Value → Bool
  | text _ => true
  | _ => false

/-- Whether a value is a list or an object, which nothing can be found by. -/
def isCollection : Value → Bool
  | list _ => true
  | object _ => true
  | _ => false

/-- Whether a value counts as present: null, false, zero and whatever is empty do not. -/
def isPresent : Value → Bool
  | null => false
  | bool b => b
  | int i => i ≠ 0
  | float x => !x.isZero
  | text s => !s.isEmpty
  | octets bytes => !bytes.isEmpty
  | list items => !items.isEmpty
  | object members => !members.isEmpty

/-- The elements of a value that has elements: items, characters, octets or member names. -/
def elements? : Value → Option (List Value)
  | list items => some items
  | text s => some ((Text.units s.toList).map fun unit => text (String.ofList unit))
  | octets bytes => some (bytes.map fun b => int b.toNat)
  | object members => some (members.map fun m => text m.1)
  | _ => none

end Value

namespace Row

/-- The value of a column, null where the row has none. -/
def cell (row : Row) (column : String) : Value := (row.lookup column).getD .null

end Row

end Polystore
