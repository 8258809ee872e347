import Polystore.Query.ColumnRef
import Polystore.Value.Equality
import Polystore.Value.Text

/-!
Rows of the cache together with rows of the database. Both are cut to the selection; a row of the
database is left out when the cache has already given a row of the same key. Keys that are
collections are compared by their texts, and have to be writable for that.
-/

namespace Polystore.Cache

/-- What a key value is found by: itself, or the text of a collection. -/
def keyOf (v : Value) : Value := if v.isCollection then .text v.inspect else v

/-- A cached row, which has its values by column. -/
def projectCached (selection : List ColumnRef) (row : Row) : Row :=
  .ofList (selection.map fun ref => (ref.label, row.cell ref.column))

/-- A row of the database, which has its values by label. -/
def projectFetched (selection : List ColumnRef) (row : Row) : Row :=
  .ofList (selection.map fun ref => (ref.label, row.cell ref.label))

/-- The label of the key column, if it is selected. -/
def keyLabel? (selection : List ColumnRef) (key : String) : Option String :=
  (selection.find? (·.column == key)).map (·.label)

/-- The cached rows, then the fetched rows whose key no cached row has. -/
def merge (cached fetched : List Row) (selection : List ColumnRef) (key : String) : List Row :=
  let seen := cached.map fun row => keyOf (row.cell key)
  let isNew (row : Row) : Bool :=
    match keyLabel? selection key with
    | none => true
    | some label => !(keyOf (row.cell label)).isAmong seen
  cached.map (projectCached selection) ++ (fetched.filter isNew).map (projectFetched selection)

/-- Whether a key is no collection, or one that can be written. -/
def isFindable (v : Value) : Bool := !v.isCollection || v.isWritable

/-- The keys by which rows are told apart: those of the cached rows, and those of the fetched ones
if the key is selected. -/
def mergeKeys (cached fetched : List Row) (selection : List ColumnRef) (key : String)
    : List Value :=
  cached.map (·.cell key)
    ++ (keyLabel? selection key).elim [] fun label => fetched.map (·.cell label)

/-- The merged rows, unless one of the keys cannot be told from others. -/
def merged (cached fetched : List Row) (selection : List ColumnRef) (key : String)
    : Except Value.WriteFailure (List Row) :=
  if (mergeKeys cached fetched selection key).all isFindable then
    .ok (merge cached fetched selection key)
  else .error .tooManyDigits

end Polystore.Cache
