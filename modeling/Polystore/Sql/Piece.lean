import Polystore.Value

/-!
SQL as pieces: text that stands as it is, names that are quoted, and slots for parameters. The
parameters of a text are the values of its slots from left to right.
-/

namespace Polystore

inductive Piece where
  | text (s : String)
  | name (s : String)
  | slot (v : Value)

abbrev Sql := List Piece

namespace Sql

/-- The values of the slots, in order. -/
def params (sql : Sql) : List Value :=
  sql.filterMap fun
    | .slot v => some v
    | _ => none

/-- The texts with a separator between them. -/
def join (separator : String) : List Sql → Sql
  | [] => []
  | [sql] => sql
  | sql :: rest => sql ++ .text separator :: join separator rest

/-- Writes pieces, the slots numbered from a number on. -/
def renderFrom (quote : String → String) (placeholder : String → String) : Nat → Sql → String
  | _, [] => ""
  | n, .text s :: rest => s ++ renderFrom quote placeholder n rest
  | n, .name s :: rest => quote s ++ renderFrom quote placeholder n rest
  | n, .slot _ :: rest => placeholder (toString n) ++ renderFrom quote placeholder (n + 1) rest

end Sql

end Polystore
