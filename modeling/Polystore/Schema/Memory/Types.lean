import Polystore.Schema.Memory.Basic

/-!
The types that columns are declared with. Each belongs to a family, which says how many arguments
its types take and of which classes they are.
-/

namespace Polystore.Schema.Memory

/-- Declared types that take the same arguments and are of the same classes. -/
structure Family where
  names : List String
  /-- The fewest arguments that are taken. -/
  least : Nat
  /-- The most arguments that are taken, if there is a limit. -/
  most : Option Nat
  classes : List TypeClass

namespace Family

/-- Whether the types take a number of arguments. -/
def takes (f : Family) (count : Nat) : Bool := f.least ≤ count && f.most.all (count ≤ ·)

end Family

/-- The types of text. They take a length, a collation and the schema of the collation. -/
def textNames : List String := ["String", "Text", "Unicode", "UnicodeText", "VARCHAR", "CHAR",
  "NCHAR", "NVARCHAR", "TEXT", "CLOB"]

/-- The families. Some types are of none of the classes. -/
def families : List Family := [
  ⟨["Boolean", "BOOLEAN"], 0, some 4, [.boolean]⟩,
  ⟨["Integer", "BigInteger", "SmallInteger", "INTEGER", "INT", "BIGINT", "SMALLINT"], 0, some 0,
    [.integer]⟩,
  ⟨["Float", "Double", "FLOAT", "DOUBLE", "DOUBLE_PRECISION", "REAL"], 0, some 3,
    [.float, .numeric]⟩,
  ⟨["Numeric", "NUMERIC", "DECIMAL"], 0, some 4, [.numeric]⟩,
  ⟨["DateTime", "DATETIME", "TIMESTAMP"], 0, some 1, [.dateTime]⟩,
  ⟨["Date", "DATE"], 0, some 0, [.date]⟩,
  ⟨["Uuid"], 0, some 2, [.uuid]⟩,
  ⟨["UUID"], 0, some 1, [.uuid]⟩,
  ⟨["JSON"], 0, some 1, [.json]⟩,
  ⟨textNames, 0, some 3, [.string]⟩,
  ⟨["Time", "TIME", "LargeBinary", "BINARY", "VARBINARY", "BLOB"], 0, some 1, []⟩,
  ⟨["Interval"], 0, some 3, []⟩,
  ⟨["PickleType"], 0, some 4, []⟩,
  ⟨["ARRAY"], 1, some 4, []⟩,
  ⟨["Enum"], 0, none, [.string]⟩,
  ⟨["TupleType"], 0, none, []⟩]

/-- Names of declarations and expressions, which are no types. -/
def otherNames : List String := [
  "CheckConstraint", "Computed", "DDL", "DefaultClause", "ForeignKey", "ForeignKeyConstraint",
  "Index", "Sequence", "Table", "alias", "all_", "any_", "asc", "between",
  "bindparam", "case", "cast", "collate", "column", "create_engine", "create_mock_engine",
  "create_pool_from_url", "delete", "desc", "distinct", "engine_from_config", "except_", "extract",
  "funcfilter", "insert", "inspect", "join", "lateral", "literal", "literal_column", "make_url",
  "not_", "nulls_first", "nulls_last", "nullsfirst", "nullslast", "outerjoin", "outparam", "over",
  "table", "tablesample", "text", "try_cast", "type_coerce", "types", "update", "within_group"]

/-- Whether a type of text names the schema of a collation but no collation. -/
def lacksCollation (name : String) (arguments : List Value) : Bool :=
  textNames.contains name &&
    match arguments with
    | [_, .null, schema] => !schema.isNull
    | _ => false

/-- Whether a type of truth values is to be adapted from something, which no argument is. -/
def adapts (name : String) (arguments : List Value) : Bool :=
  ["Boolean", "BOOLEAN"].contains name && (arguments.drop 3).any (·.isPresent)

/-- The classes of a declared type with its arguments. The members of an enumeration are texts. -/
def classesOf (name : String) (arguments : List Value) : Except Defect (List TypeClass) :=
  match families.find? (·.names.contains name) with
  | some family =>
    if !family.takes arguments.length || (name == "Enum" && !arguments.all (·.isText)) then
      .error .misusedType
    else if adapts name arguments then .error .adaptedValue
    else if lacksCollation name arguments then .error .collationLacking
    else .ok family.classes
  | none => .error (if otherNames.contains name then .misusedType else .unknownType)

end Polystore.Schema.Memory
