import Polystore.Schema.Tables

/-! What is relied on in the metadata that a library gives. Columns of one table differ in name;
what a key or a foreign key is of are columns of its table; and tables whose foreign keys lead
somewhere can be put in order, which only moves them. Nothing is said of where foreign keys lead.
-/

namespace Polystore.Schema

variable {ε : Type}

/-- The names of a table's columns. -/
def Table.columnNames (t : Table ε) : List String := t.columns.map (·.name)

/-- Whether a table is to be described. -/
def IncludedBy (included : Option (List String)) (t : Table ε) : Prop :=
  ∀ names, included = some names → t.name ∈ names

theorem includedBy_iff {included : Option (List String)} {t : Table ε}
    : (included.all (·.contains t.name)) = true ↔ IncludedBy included t := by
  cases included <;> simp [IncludedBy]

namespace MetaData

/-- Whether every foreign key leads to a column. -/
def Resolved (m : MetaData ε) : Prop :=
  ∀ t ∈ m.tables, ∀ key ∈ t.foreignKeys, ∃ target, key.target = .ok target

/-- What a library promises of metadata. -/
structure Lawful (m : MetaData ε) : Prop where
  columns : ∀ t ∈ m.tables, t.columnNames.Nodup
  keys : ∀ t ∈ m.tables, ∀ name ∈ t.primaryKey, name ∈ t.columnNames
  parents : ∀ t ∈ m.tables, ∀ key ∈ t.foreignKeys, key.parent ∈ t.columnNames
  sorts : m.Resolved → ∃ all, m.sortedTables = .ok all ∧ all.Perm m.tables

/-- Whether the column that a foreign key of an included table points at belongs to the table that
it points at, where a table of that name is included. It does not where the foreign key was given a
column of a table of the same name that is not in the metadata.
-/
def TargetsBelong (m : MetaData ε) (included : Option (List String)) : Prop :=
  ∀ t ∈ m.tables,
    IncludedBy included t
    → ∀ key ∈ t.foreignKeys,
        ∀ target,
          key.target = .ok target
          → ∀ other ∈ m.tables,
              IncludedBy included other
              → other.name = target.table
              → target.column ∈ other.columnNames

end MetaData

end Polystore.Schema
