/-!
References to columns. A reference names a table in front of its first point, or no table, and then
it is to a column of the table that the query starts from.
-/

namespace Polystore

structure ColumnRef where
  table : String
  column : String
  qualified : Bool
  deriving DecidableEq, Inhabited

namespace ColumnRef

/-- Reads a reference in a query that starts from a table. -/
def parse (source : String) (reference : String) : ColumnRef :=
  let cs := reference.toList
  let front := cs.takeWhile (· ≠ '.')
  match cs.drop front.length with
  | _ :: behind => ⟨String.ofList front, String.ofList behind, true⟩
  | [] => ⟨source, reference, false⟩

/-- The reference to a column of a joined table. -/
def joined (table column : String) : ColumnRef := ⟨table, column, true⟩

/-- Table and column with a point between them. -/
def path (r : ColumnRef) : String := r.table ++ "." ++ r.column

/-- The name of the column in results: the reference as it was written. -/
def label (r : ColumnRef) : String := if r.qualified then r.path else r.column

end ColumnRef

end Polystore
