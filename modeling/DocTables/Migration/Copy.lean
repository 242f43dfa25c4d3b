import DocTables.Schema.Property
import DocTables.Storage.Reply

/-!
# Copying rows into a table of another shape

A row is reshaped to the declared properties: values it has are kept, values it lacks are filled
with the default, and columns that are not declared are dropped. The same is done inside the storage
by one statement, which selects a column where the source has it and writes a literal elsewhere.
-/

namespace DocTables

/-- A row in the shape of the declared properties. -/
def reshape (properties : PropertySet) (row : Row) : Row :=
  properties.toList.map fun property =>
    (property.name, (row.get? property.name).getD property.defaultValue)

/-- Where a copied column takes its value from. -/
inductive CopySource where
  /-- A column of the source. -/
  | column (name : String)
  /-- A value that is the same for all rows. -/
  | value (value : Scalar)
deriving DecidableEq, Repr

/-- A copy of all rows of one table into another. -/
structure RowCopy where
  /-- The table the rows are read from. -/
  source : String
  /-- The table the rows are added to. -/
  target : String
  /-- The columns of the target, and where each takes its value from. -/
  columns : List (String × CopySource)
deriving DecidableEq, Repr

namespace CopySource

/-- The source of a value as it is written in a statement. -/
def text : CopySource → String
  | .column name => name
  | .value v => v.literal

end CopySource

namespace RowCopy

/-- The copy that reshapes rows with the columns `present` to the declared properties. -/
def ofProperties (source target : String) (properties : PropertySet) (present : List String) :
    RowCopy where
  source := source
  target := target
  columns := properties.toList.map fun property =>
    (property.name,
      if property.name ∈ present then .column property.name
      else .value (Scalar.ofJson property.defaultValue))

/-- The statement that copies all rows. -/
def text (copy : RowCopy) : String :=
  "INSERT INTO " ++ copy.target ++ " (" ++ ", ".intercalate (copy.columns.map Prod.fst) ++
    ") SELECT " ++ ", ".intercalate (copy.columns.map fun column => column.2.text) ++
    " FROM " ++ copy.source

end RowCopy

end DocTables
