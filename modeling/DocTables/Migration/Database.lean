import DocTables.Migration.Statement
import DocTables.Storage.Dialogue

/-!
# A database in memory

Tables with their columns and rows, and the indexes that were created on them. A statement is
carried out completely or fails and changes nothing: creating what exists fails, and so does
everything that is done to a table that does not exist. Names are compared exactly, and values are
stored as given.
-/

namespace DocTables

/-- A table with its rows. -/
structure StoredTable where
  /-- The name. -/
  name : String
  /-- The columns as they were defined. -/
  columns : List Column
  /-- The rows in order. -/
  rows : List Row

/-- An index that was created by a statement. -/
structure StoredIndex where
  /-- The name of the index. -/
  name : String
  /-- The table. -/
  table : String
  /-- The column. -/
  column : String
deriving DecidableEq, Repr

/-- A database. -/
structure Database where
  /-- The tables in the order of their creation. -/
  tables : List StoredTable
  /-- The indexes in the order of their creation. -/
  indexes : List StoredIndex

namespace Database

/-- The database without tables. -/
def empty : Database := ⟨[], []⟩

/-- The table of a name. -/
def table? (database : Database) (name : String) : Option StoredTable :=
  database.tables.find? fun table => table.name == name

/-- The tables after a change to the table of a name. -/
def mapTable (database : Database) (name : String) (change : StoredTable → StoredTable) :
    Database :=
  { database with
    tables := database.tables.map fun table => if table.name = name then change table else table }

/-! ### What a database reports -/

/-- The number that stands for a truth value in a report. -/
def flagValue (b : Bool) : Json := .number (.int (if b then 1 else 0))

/-- The row of `table_info` for a column. -/
def tableInfoRow (column : Column) : Row :=
  [("name", .string column.name), ("type", .string column.type.name),
    ("notnull", flagValue column.notNull),
    ("dflt_value", match column.defaultLiteral with
      | some literal => .string literal
      | none => .null),
    ("pk", flagValue column.primaryKey)]

/-- The name of the index that stands for the constraint of a unique column. -/
def constraintIndexName (table column : String) : String :=
  "sqlite_autoindex_" ++ table ++ "_" ++ column

/-- The columns whose constraint has an index of its own. -/
def constraintColumns (table : StoredTable) : List Column :=
  table.columns.filter fun column => column.unique && !column.primaryKey

/-- The rows of `index_list` for a table: the indexes that were created and those that stand for
constraints. -/
def indexListRows (database : Database) (table : StoredTable) : List Row :=
  ((database.indexes.filter fun index => index.table == table.name).map fun index =>
    [("name", .string index.name), ("unique", flagValue false), ("origin", .string "c")]) ++
  (constraintColumns table).map fun column =>
    [("name", .string (constraintIndexName table.name column.name)), ("unique", flagValue true),
      ("origin", .string "u")]

/-- The rows of `index_info` for an index. -/
def indexInfoRows (database : Database) (index : String) : List Row :=
  ((database.indexes.filter fun stored => stored.name == index).map fun stored =>
    [("name", .string stored.column)]) ++
  database.tables.flatMap fun table =>
    ((constraintColumns table).filter fun column =>
      constraintIndexName table.name column.name == index).map fun column =>
        [("name", .string column.name)]

/-! ### Running statements -/

/-- The document's value that a scalar stands for. -/
def storedValue : Scalar → Json
  | .null => .null
  | .bool b => flagValue b
  | .int n => .number (.int n)
  | .float x => .number (.float x)
  | .text s => .string s

/-- The row that a copy makes of a row of its source. -/
def copiedRow (copy : RowCopy) (row : Row) : Row :=
  copy.columns.map fun column =>
    (column.1, match column.2 with
      | .column name => (row.get? name).getD .null
      | .value v => storedValue v)

/-- The failure of a statement about a table that does not exist. -/
def noSuchTable (name : String) : StorageError := ⟨"no such table: " ++ name⟩

/-- The failure of a statement that creates a table that exists. -/
def alreadyExists (name : String) : StorageError := ⟨"table " ++ name ++ " already exists"⟩

/-- A write that changed a number of rows. -/
def wrote (count : Nat) : Reply := .written none count

/-- Carries out a statement. -/
def apply (database : Database) :
    MigrationStatement → Except StorageError (Reply × Database)
  | .findTable name =>
    .ok (.rows (match database.table? name with
      | some _ => [[("name", .string name)]]
      | none => []), database)
  | .tableInfo name =>
    .ok (.rows (match database.table? name with
      | some table => table.columns.map tableInfoRow
      | none => []), database)
  | .indexList name =>
    .ok (.rows (match database.table? name with
      | some table => database.indexListRows table
      | none => []), database)
  | .indexInfo index => .ok (.rows (database.indexInfoRows index), database)
  | .readAll name =>
    match database.table? name with
    | some table => .ok (.rows table.rows, database)
    | none => .error (noSuchTable name)
  | .createTable table =>
    match database.table? table.name with
    | some _ => .error (alreadyExists table.name)
    | none =>
      .ok (wrote 0, { database with
        tables := database.tables ++ [⟨table.name, table.columns, []⟩] })
  | .addColumn name column =>
    match database.table? name with
    | some _ =>
      let value := storedValue (column.default.getD .null)
      .ok (wrote 0, database.mapTable name fun table =>
        { table with
          columns := table.columns ++ [column]
          rows := table.rows.map fun row => row ++ [(column.name, value)] })
    | none => .error (noSuchTable name)
  | .copyRows copy limit offset =>
    match database.table? copy.source, database.table? copy.target with
    | some source, some _ =>
      let rows := ((source.rows.drop offset).take limit).map (copiedRow copy)
      .ok (wrote rows.length, database.mapTable copy.target fun table =>
        { table with rows := table.rows ++ rows })
    | none, _ => .error (noSuchTable copy.source)
    | _, none => .error (noSuchTable copy.target)
  | .dropTable name =>
    match database.table? name with
    | some _ =>
      .ok (wrote 0, ⟨database.tables.filter fun table => table.name != name,
        database.indexes.filter fun index => index.table != name⟩)
    | none => .error (noSuchTable name)
  | .renameTable source target =>
    match database.table? source, database.table? target with
    | some _, none =>
      let withName := database.mapTable source fun table => { table with name := target }
      .ok (wrote 0, { withName with
        indexes := withName.indexes.map fun index =>
          if index.table = source then { index with table := target } else index })
    | none, _ => .error (noSuchTable source)
    | _, some _ => .error (alreadyExists target)
  | .createIndex table column =>
    let name := indexName table column
    match database.table? table with
    | some _ =>
      if database.indexes.any fun index => index.name == name then .ok (wrote 0, database)
      else
        .ok (wrote 0, { database with indexes := database.indexes ++ [⟨name, table, column⟩] })
    | none => .error (noSuchTable table)

/-- The database as a storage. -/
def storage : Dialogue.Storage MigrationStatement Database := fun statement database =>
  match database.apply statement with
  | .ok (reply, database) => (.ok reply, database)
  | .error error => (.error error, database)

end Database

end DocTables
