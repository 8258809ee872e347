import Polystore.Schema.Memory.Order

/-!
The metadata of schemas that are declared in memory. A foreign key is looked up among the declared
tables when it is asked for its target.
-/

namespace Polystore.Schema.Memory

namespace Column

/-- Key columns allow no nulls unless they are declared to. -/
def described (c : Column) : Schema.Column where
  name := c.name
  isOf := c.classes.contains
  primaryKey := c.key
  nullable := c.nullable.getD (.bool !c.isKey)
  index := c.index

end Column

/-- The foreign key of a source column and its target, in a table among others. -/
def foreignKey (tables : List Table) (t : Table) (link : String × Target) : ForeignKey Defect where
  parent := link.1
  target := (follow tables t link.1 link.2).map fun other =>
    ⟨other.name, link.2.columnFor link.1⟩

namespace Table

def described (tables : List Table) (t : Table) : Schema.Table Defect where
  name := t.name
  columns := t.columns.map (·.described)
  primaryKey := (t.columns.filter (·.isKey)).map (·.name)
  foreignKeys := (t.references.flatMap (·.pairs)).map (foreignKey tables t)

end Table

/-- The metadata of declared tables. -/
def metaData (tables : List Table) : MetaData Defect where
  tables := tables.map (·.described tables)
  sortedTables := (ordered tables).map fun all => all.map (·.described tables)

end Polystore.Schema.Memory
