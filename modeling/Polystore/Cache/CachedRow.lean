import Polystore.Fault
import Polystore.Json.Document

/-!
Rows from cached values. A cached value is a row, or the JSON text of one, or the octets of such a
text; any other value counts as absent.
-/

namespace Polystore.Cache

variable (nesting : Nat)

/-- The row that a text holds. -/
def rowOfText (s : String) : Except Fault (Option Row) :=
  match Json.parse nesting s with
  | .ok (.object members) => .ok (some members)
  | .ok _ => .ok none
  | .error (.malformed _ _) => .ok none
  | .error failure => .error (.unreadableJson failure)

/-- The row that a cached value holds, if it holds one. -/
def row? : Value → Except Fault (Option Row)
  | .object members => .ok (some members)
  | .text s => rowOfText nesting s
  | .octets bytes =>
    match Text.Utf8.decode bytes with
    | .ok s => rowOfText nesting s
    | .error failure => .error (.unreadableText failure)
  | _ => .ok none

end Polystore.Cache
