import DocTables.Migration.Error

/-!
# Columns of live tables

What a storage reports of the columns and the indexes of a table, read from its rows.
-/

namespace DocTables

/-- A column that a live table has. -/
structure ReportedColumn where
  /-- The name. -/
  name : String
  /-- The type, as it stands in the definition of the table. -/
  declaredType : String
  /-- Whether `NULL` is excluded. -/
  notNull : Bool
  /-- The default, as it stands in the definition of the table. -/
  default : Option String
  /-- Whether the column belongs to the primary key. -/
  primaryKey : Bool
  /-- Whether a constraint on this column alone excludes that a value occurs twice. -/
  unique : Bool
deriving DecidableEq, Repr, Inhabited

namespace ReportedColumn

/-- Whether a field of a row is a positive integer. -/
def flag (row : Row) (name : String) : Bool :=
  match (row.get? name).bind Json.int64? with
  | some n => decide (0 < n)
  | none => false

/-- The column that a row of `table_info` describes. A default that is no text is given by its JSON
text. -/
def ofTableInfo (row : Row) : Except MigrationError ReportedColumn :=
  match row.get? "name" with
  | some (.string name) =>
    .ok {
      name := name
      declaredType := ((row.get? "type").bind Json.string?).getD ""
      notNull := flag row "notnull"
      default := match row.get? "dflt_value" with
        | none => none
        | some .null => none
        | some (.string s) => some s
        | some value => some value.text
      primaryKey := flag row "pk"
      unique := false }
  | _ => .error (.namelessColumn row)

/-- The columns that the rows of `table_info` describe. -/
def ofTableInfoRows : List Row → Except MigrationError (List ReportedColumn)
  | [] => .ok []
  | row :: rest => do
    let column ← ofTableInfo row
    let columns ← ofTableInfoRows rest
    return column :: columns

/-- The name of the index that a row of `index_list` describes, if the index stands for a constraint
that no value may occur twice. -/
def constraintIndexName? (row : Row) : Option String :=
  if (row.get? "origin").bind Json.string? = some "u" ∧ flag row "unique" = true then
    (row.get? "name").bind Json.string?
  else none

/-- The names of the indexes that stand for constraints. -/
def constraintIndexNames (rows : List Row) : List String := rows.filterMap constraintIndexName?

/-- The column that the rows of `index_info` name, if the index has just one. -/
def onlyColumn? : List Row → Option String
  | [row] => (row.get? "name").bind Json.string?
  | _ => none

end ReportedColumn

end DocTables
