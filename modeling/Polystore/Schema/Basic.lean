import Polystore.Value

/-!
Metadata of schemas, as a library of declarations gives it: tables with typed columns, key columns
and foreign keys. How it is declared and put in order is left to the library; asking it for the
order of the tables or for the target of a foreign key may fail in ways of its own.
-/

namespace Polystore.Schema

/-- The classes that the types of columns are told apart by. A type may be of several. -/
inductive TypeClass where
  | boolean
  | integer
  | float
  | numeric
  | dateTime
  | date
  | uuid
  | json
  | string
  deriving DecidableEq

structure Column where
  name : String
  isOf : TypeClass → Bool
  /-- What is said of the column being part of the key. -/
  primaryKey : Value
  /-- What is said of the column allowing nulls, which may be nothing. -/
  nullable : Value
  /-- What is said of an index of the column. -/
  index : Value

/-- The column that a foreign key points at, by its name and that of its table. -/
structure Target where
  table : String
  column : String
  deriving DecidableEq

/-- A foreign key of one column, or one of the columns of a composite key. -/
structure ForeignKey (ε : Type) where
  parent : String
  target : Except ε Target

structure Table (ε : Type) where
  name : String
  columns : List Column
  primaryKey : List String
  foreignKeys : List (ForeignKey ε)

structure MetaData (ε : Type) where
  tables : List (Table ε)
  /-- The tables, every one after those it refers to. -/
  sortedTables : Except ε (List (Table ε))

end Polystore.Schema
