import DocTables.Scalar
import DocTables.Schema.PropertyType

/-!
# Columns

A column as it should be in a table, and its definition as text. The clauses of a definition come
in a fixed order: uniqueness, primary key, the exclusion of `NULL`, the default.
-/

namespace DocTables

/-- A column as it should be. -/
structure Column where
  /-- The name. -/
  name : String
  /-- The type. -/
  type : ColumnType
  /-- Whether no value may occur twice. -/
  unique : Bool
  /-- Whether the column is the primary key. -/
  primaryKey : Bool
  /-- Whether the column is to have an index; this is no part of its definition. -/
  indexed : Bool
  /-- Whether `NULL` is excluded. -/
  notNull : Bool
  /-- The default value; a default of `NULL` is not the same as no default. -/
  default : Option Scalar
deriving DecidableEq, Repr

namespace Column

/-- The column without constraints and default. -/
def plain (name : String) (type : ColumnType) : Column :=
  ⟨name, type, false, false, false, false, none⟩

/-- The literal after `DEFAULT`, if there is a default. -/
def defaultLiteral (column : Column) : Option String := column.default.map Scalar.defaultLiteral

/-- Whether the column can be added to a table that exists: unique columns and primary keys cannot,
and neither can a column that excludes `NULL` without a default. -/
def isAddable (column : Column) : Bool :=
  !column.unique && !column.primaryKey && !(column.notNull && column.default.isNone)

/-- The words of the definition of a column, in order. -/
def definitionWords (column : Column) : List String :=
  [column.name, column.type.name] ++
    (if column.unique then ["UNIQUE"] else []) ++
    (if column.primaryKey then ["PRIMARY KEY"] else []) ++
    (if column.notNull then ["NOT NULL"] else []) ++
    (match column.defaultLiteral with
      | some literal => ["DEFAULT " ++ literal]
      | none => [])

/-- The definition of a column, such as `age REAL NOT NULL DEFAULT 20`. -/
def definition (column : Column) : String := " ".intercalate column.definitionWords

/-- The definitions of columns, separated by commas. -/
def definitions (columns : List Column) : String := ", ".intercalate (columns.map definition)

/-- The names of the columns that are to have an index, or that are the primary key, in order and
each once. -/
def indexNames (columns : List Column) : List String :=
  (columns.filter fun column => column.indexed || column.primaryKey).foldl
    (fun names column => if column.name ∈ names then names else names ++ [column.name]) []

end Column

end DocTables
