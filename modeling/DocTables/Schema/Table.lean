import DocTables.Schema.Property

/-!
# Tables

The shape a table should have: its name and its columns.
-/

namespace DocTables

/-- A table as it should be. -/
structure Table where
  /-- The name. -/
  name : String
  /-- The columns in order. -/
  columns : List Column
deriving DecidableEq, Repr

namespace Table

/-- The table of a set of properties, under a name that must be plain. -/
def ofProperties (name : String) (properties : PropertySet) : Except SchemaError Table :=
  if isPlainName name then .ok ⟨name, properties.columns⟩ else .error (.invalidIdentifier name)

/-- The column of a name. -/
def column? (table : Table) (name : String) : Option Column :=
  table.columns.find? fun column => column.name == name

/-- The column that is the primary key. -/
def primaryKey? (table : Table) : Option Column := table.columns.find? Column.primaryKey

/-- The names of the columns that are to have an index. -/
def indexNames (table : Table) : List String := Column.indexNames table.columns

/-- The statement that creates the table. -/
def createStatement (table : Table) : String :=
  "CREATE TABLE " ++ table.name ++ " (" ++ Column.definitions table.columns ++ ")"

/-- A table of the same shape under another name. -/
def withName (table : Table) (name : String) : Table := ⟨name, table.columns⟩

end Table

end DocTables
