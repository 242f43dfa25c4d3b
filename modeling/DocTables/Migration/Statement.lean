import DocTables.Migration.Copy
import DocTables.Schema.Table

/-!
# Statements of a migration

The statements that look at a table and its columns, and those that change them.
-/

namespace DocTables

/-- A statement of a migration. -/
inductive MigrationStatement where
  /-- Looks for a table. -/
  | findTable (name : String)
  /-- Lists the columns of a table. -/
  | tableInfo (table : String)
  /-- Lists the indexes of a table. -/
  | indexList (table : String)
  /-- Lists the columns of an index. -/
  | indexInfo (index : String)
  /-- Reads all rows of a table. -/
  | readAll (table : String)
  /-- Creates a table. -/
  | createTable (table : Table)
  /-- Adds a column to a table. -/
  | addColumn (table : String) (column : Column)
  /-- Copies the rows that come after `offset` others, at most `limit` of them. -/
  | copyRows (copy : RowCopy) (limit offset : Nat)
  /-- Drops a table. -/
  | dropTable (table : String)
  /-- Gives a table another name. -/
  | renameTable (source target : String)
  /-- Creates the index on a column, unless it exists. -/
  | createIndex (table column : String)
deriving DecidableEq, Repr

/-- The name of the index on a column of a table. -/
def indexName (table column : String) : String := table ++ "_" ++ column ++ "_index"

namespace MigrationStatement

/-- The text of a statement. Names from a storage stand in it as quoted texts. -/
def sql : MigrationStatement → String
  | .findTable name =>
    "SELECT name FROM sqlite_master WHERE type = 'table' AND name = " ++ (Scalar.text name).literal
  | .tableInfo table => "PRAGMA table_info(" ++ table ++ ")"
  | .indexList table => "PRAGMA index_list(" ++ table ++ ")"
  | .indexInfo index => "PRAGMA index_info(" ++ (Scalar.text index).literal ++ ")"
  | .readAll table => "SELECT * FROM " ++ table
  | .createTable table => table.createStatement
  | .addColumn table column => "ALTER TABLE " ++ table ++ " ADD COLUMN " ++ column.definition
  | .copyRows copy limit offset =>
    copy.text ++ " ORDER BY rowid LIMIT " ++ toString limit ++ " OFFSET " ++ toString offset
  | .dropTable table => "DROP TABLE " ++ table
  | .renameTable source target => "ALTER TABLE " ++ source ++ " RENAME TO " ++ target
  | .createIndex table column =>
    "CREATE INDEX IF NOT EXISTS " ++ indexName table column ++ " ON " ++ table ++ " (" ++ column ++
      ")"

/-- Whether the statement only looks. -/
def isRead : MigrationStatement → Bool
  | .findTable _ | .tableInfo _ | .indexList _ | .indexInfo _ | .readAll _ => true
  | _ => false

end MigrationStatement

end DocTables
