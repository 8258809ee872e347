import Polystore.Schema.Basic
import Polystore.Value.Text

/-!
Schemas that are declared in memory, which stand in for those of a library: tables with typed
columns, key columns and references to columns of other tables. A reference names its targets by
texts, so it may lead nowhere.
-/

namespace Polystore.Schema.Memory

structure Column where
  name : String
  /-- The classes that the type is of. -/
  classes : List TypeClass
  /-- What was declared of the column being a key. -/
  key : Value
  /-- What was declared of the column allowing nulls, if anything was declared. -/
  nullable : Option Value
  /-- What was declared of an index of the column. -/
  index : Value
  /-- What was declared of its values being unique. -/
  unique : Value
  deriving Inhabited

namespace Column

def isKey (c : Column) : Bool := c.key.isPresent

/-- Whether the column was declared to have an index. -/
def indexed (c : Column) : Bool := c.index.isPresent

end Column

/-- The text of a target: a table, perhaps in a schema, and perhaps a column behind the last
point. -/
structure Target where
  text : String
  deriving DecidableEq, Inhabited

namespace Target

/-- The characters behind the last point, in reverse, and what stands from there to the front. -/
def parts (t : Target) : List Char × List Char := t.text.toList.reverse.span (· ≠ '.')

/-- The column, if the text names one. -/
def column? (t : Target) : Option String :=
  match t.parts with
  | (_, []) => none
  | (name, _) => some (String.ofList name.reverse)

/-- The column that a source column refers to: one of the same name where the text names none. -/
def columnFor (t : Target) (source : String) : String := t.column?.getD source

/-- The key of the table. -/
def tableKey (t : Target) : String :=
  match t.parts with
  | (name, []) => String.ofList name.reverse
  | (_, _ :: table) => String.ofList table.reverse

end Target

/-- A reference as it is declared: its source columns and their targets. -/
structure Reference where
  columns : List String
  targets : List Target
  deriving DecidableEq, Inhabited

namespace Reference

/-- The source columns, each once. -/
def sources (r : Reference) : List String := r.columns.eraseDups

/-- The source columns with their targets. -/
def pairs (r : Reference) : List (String × Target) := r.sources.zip r.targets

end Reference

structure Table where
  name : String
  schema : Option String
  columns : List Column
  references : List Reference
  deriving Inhabited

namespace Table

/-- What tells the table from all others: its name, with its schema in front if it has one. -/
def key (t : Table) : String :=
  match t.schema with
  | some schema => schema ++ "." ++ t.name
  | none => t.name

end Table

/-- What is wrong with a schema. -/
inductive Defect where
  | unknownType
  | misusedType
  | adaptedValue
  | collationLacking
  | unmatchedTargets
  | repeatedSources
  | redeclared (key : String)
  | noPart (v : Value)
  | unnamedColumn
  | repeatedColumn (table column : String)
  | namedIndex
  | namedConstraint
  | unknownSource (table column : String)
  | severalTargets (table : String) (columns : List String) (first second : String)
  | noTable (owner column : String) (target : Target)
  | noColumn (owner found column : String) (target : Target)

namespace Defect

def message : Defect → String
  | unknownType => "no type of this name"
  | misusedType => "no type, or one that takes other arguments"
  | adaptedValue => "a type is adapted from no value"
  | collationLacking =>
    "the 'collation_schema' parameter of String requires the 'collation' parameter to also be "
      ++ "present"
  | unmatchedTargets =>
    "ForeignKeyConstraint number of constrained columns must match the number of referenced "
      ++ "columns."
  | repeatedSources =>
    "ForeignKeyConstraint with duplicate source column references are not supported."
  | redeclared key =>
    s!"Table '{key}' is already defined for this MetaData instance.  Specify "
      ++ "'extend_existing=True' to redefine options and columns on an existing Table object."
  | unnamedColumn =>
    "Column must be constructed with a non-blank name or assign a non-blank .name before adding "
      ++ "to a Table."
  | repeatedColumn table column =>
    s!"A column with name '{column}' is already present in table '{table}'."
  | noPart v =>
    s!"'SchemaItem' object, such as a 'Column' or a 'Constraint' expected, got {v.inspect}"
  | namedIndex =>
    "The 'index' keyword argument on Column is boolean only. To create indexes with a specific "
      ++ "name, create an explicit Index object external to the Table."
  | namedConstraint =>
    "The 'unique' keyword argument on Column is boolean only. To create unique constraints or "
      ++ "indexes with a specific name, append an explicit UniqueConstraint to the Table's list of "
      ++ "elements, or create an explicit Index object external to the Table."
  | unknownSource table column =>
    s!"Can't create ForeignKeyConstraint on table '{table}': no column named '{column}' is "
      ++ "present."
  | severalTargets table columns first second =>
    let sources := ", ".intercalate columns
    s!"ForeignKeyConstraint on {table}({sources}) refers to multiple remote tables: "
      ++ s!"{first} and {second}"
  | noTable owner column target =>
    let found := target.column?.getD "None"
    s!"Foreign key associated with column '{owner}.{column}' could not find table "
      ++ s!"'{target.tableKey}' with which to generate a foreign key to target column '{found}'"
  | noColumn owner found column target =>
    s!"Could not initialize target column for ForeignKey '{target.text}' on table '{owner}': "
      ++ s!"table '{found}' has no column named '{column}'"

end Defect

/-- The table that a column of a table refers to. -/
def follow (tables : List Table) (owner : Table) (column : String) (target : Target)
    : Except Defect Table :=
  match tables.find? fun t => t.key == target.tableKey with
  | none => .error (.noTable owner.name column target)
  | some t =>
    if t.columns.any fun c => c.name == target.columnFor column then .ok t
    else .error (.noColumn owner.name t.name (target.columnFor column) target)

end Polystore.Schema.Memory
