import DocTables.Json.Printer
import DocTables.Schema.Error
import DocTables.Storage.Reply

/-!
# What can stop a migration
-/

namespace DocTables

/-- Why a migration is refused. -/
inductive MigrationError where
  /-- The schema is not acceptable. -/
  | schema (error : SchemaError)
  /-- The schema declares no properties. -/
  | noProperties (table : String)
  /-- The table exists and reports no columns. -/
  | noColumns (table : String)
  /-- The table reports a column without a name. -/
  | namelessColumn (row : Row)
  /-- A row would be copied with `NULL` for its primary key. -/
  | nullKey (column : String)
  /-- Two rows would be copied with one value of their primary key. -/
  | duplicateKey (column : String) (value : Json)

/-- The message of an error. -/
def MigrationError.message : MigrationError → String
  | .schema error => error.message
  | .noProperties table => "Migration failed: no properties declared for table '" ++ table ++ "'"
  | .noColumns table => "Migration failed: table '" ++ table ++ "' exists but reports no columns"
  | .namelessColumn row =>
    "Migration failed: table_info row without a column name: " ++ (Json.object row).text
  | .nullKey column =>
    "Migration failed: primary key '" ++ column ++ "' would be NULL for a copied row"
  | .duplicateKey column value =>
    "Migration failed: primary key '" ++ column ++ "' value " ++ value.text ++ " is duplicated"

end DocTables
