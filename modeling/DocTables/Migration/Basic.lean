import DocTables.Migration.Plan
import DocTables.Storage.Dialogue

/-!
# Migrations

A migration looks at the live table, makes a plan and carries it out, one statement at a time. A
rebuild that stopped halfway leaves a shadow table; the next migration of the table clears it up
first, so that a migration that failed can be repeated. Before rows are copied they are all read, so
that a row without its primary key, or one that shares it, stops the migration before any row is
written.
-/

namespace DocTables

/-- A run of statements in the course of a migration. -/
abbrev Migrating (α : Type) := Dialogue MigrationStatement MigrationError α

namespace Migration

open Dialogue (send refuse)

/-! ### Looking at a table -/

/-- Whether a table exists. -/
def hasTable (table : String) : Migrating Bool := do
  let reply ← send (.findTable table)
  return !reply.toRows.isEmpty

/-- The columns that the indexes of the given names have to themselves. -/
def columnsOfIndexes : List String → Migrating (List String)
  | [] => return []
  | index :: rest => do
    let reply ← send (.indexInfo index)
    let columns ← columnsOfIndexes rest
    return (ReportedColumn.onlyColumn? reply.toRows).toList ++ columns

/-- The columns in which a constraint of their own excludes that a value occurs twice. -/
def constrainedColumns (table : String) : Migrating (List String) := do
  let reply ← send (.indexList table)
  columnsOfIndexes (ReportedColumn.constraintIndexNames reply.toRows)

/-- The live columns of a table; a table that does not exist has none. -/
def reportedColumns (table : String) : Migrating (List ReportedColumn) := do
  if !isPlainName table then refuse (.schema (.invalidIdentifier table))
  let reply ← send (.tableInfo table)
  let columns ← (ReportedColumn.ofTableInfoRows reply.toRows : Except MigrationError _)
  let unique ← constrainedColumns table
  return columns.map fun column => { column with unique := column.name ∈ unique }

/-- The live columns of a table, if it exists. A table without columns is refused. -/
def currentColumns (table : String) : Migrating (Option (List ReportedColumn)) := do
  if ← hasTable table then
    let columns ← reportedColumns table
    if columns.isEmpty then refuse (.noColumns table)
    return some columns
  else return none

/-! ### Plans -/

/-- The table that the properties describe; there must be properties, and the name must be
plain. -/
def desiredTable (table : String) (properties : PropertySet) : Except MigrationError Table :=
  if properties.isEmpty then .error (.noProperties table)
  else match Table.ofProperties table properties with
    | .ok desired => .ok desired
    | .error error => .error (.schema error)

/-- The plan for a table as it is now. Nothing is written, and a shadow table that was left behind
is not looked for. -/
def preview (options : MigrationOptions) (table : String) (properties : PropertySet) :
    Migrating Plan := do
  let desired ← (desiredTable table properties : Except MigrationError _)
  let live ← currentColumns table
  return .make options desired live

/-! ### Clearing up -/

/-- Clears up after a rebuild that stopped halfway: a shadow table beside its table is dropped, and
a shadow table whose table is gone takes its name. -/
def clearUp (options : MigrationOptions) (table : String) : Migrating Unit := do
  let shadow := options.shadowName table
  if ← hasTable shadow then
    if ← hasTable table then
      discard (send (.dropTable shadow))
    else
      discard (send (.renameTable shadow table))

/-! ### Copying rows -/

/-- Refuses rows of which one has no value for the primary key, or two have the same, given the
JSON texts of the values that were seen before. -/
def checkKeys (key : String) (seen : List String) : List Row → Except MigrationError Unit
  | [] => .ok ()
  | row :: rest =>
    let value := (row.get? key).getD .null
    if value.isNull then .error (.nullKey key)
    else if value.text ∈ seen then .error (.duplicateKey key value)
    else checkKeys key (value.text :: seen) rest

/-- The numbers of rows to skip, so that batches of a size cover a number of rows. -/
def batchOffsets (size count : Nat) : List Nat :=
  (List.range ((count + size - 1) / size)).map (· * size)

/-- Copies one batch of rows for each number of rows to skip, and adds up how many were copied. The
sum is not limited to the numbers of a machine word. Only a storage that reports more rows than it
was asked to copy can exceed these; what becomes of the sum then is left open here. -/
def copyBatches (copy : RowCopy) (size : Nat) : List Nat → Migrating Nat
  | [] => return 0
  | offset :: rest => do
    let reply ← send (.copyRows copy size offset)
    let copied ← copyBatches copy size rest
    return reply.rowsAffected + copied

/-- Copies the rows of a table into another one in the shape of the properties. -/
def copyTable (options : MigrationOptions) (source target : String) (properties : PropertySet)
    (desired : Table) (live : List ReportedColumn) : Migrating Nat := do
  let reply ← send (.readAll source)
  let rows := reply.toRows.map (reshape properties)
  match desired.primaryKey? with
  | some key => (checkKeys key.name [] rows : Except MigrationError Unit)
  | none => pure ()
  let copy := RowCopy.ofProperties source target properties (live.map ReportedColumn.name)
  let size := max options.batchSize 1
  copyBatches copy size (batchOffsets size rows.length)

/-! ### Carrying out a plan -/

/-- Carries out steps in order; the result is the number of rows that the last copy moved. -/
def carryOut (options : MigrationOptions) (properties : PropertySet) (desired : Table)
    (live : List ReportedColumn) (copied : Nat) : List PlanStep → Migrating Nat
  | [] => return copied
  | .copyRows source target :: rest => do
    let copied ← copyTable options source target properties desired live
    carryOut options properties desired live copied rest
  | step :: rest => do
    match step.statement? with
    | some statement => discard (send statement)
    | none => pure ()
    carryOut options properties desired live copied rest

/-- What a migration did to its table. -/
inductive Change where
  /-- The table was created. -/
  | created
  /-- Columns were added in place. -/
  | altered (added : List String)
  /-- The table was rebuilt. -/
  | rebuilt (copied : Nat)
  /-- The table was as it should be. -/
  | unchanged
deriving DecidableEq, Repr

/-- What a plan does, once it is carried out. -/
def changeOf (plan : Plan) (copied : Nat) : Change :=
  match plan.course with
  | .create => .created
  | .alter => .altered plan.added
  | .rebuild => .rebuilt copied
  | .unchanged => .unchanged

/-- Brings a table to the shape of the properties. -/
def migrate (options : MigrationOptions) (table : String) (properties : PropertySet) :
    Migrating Change := do
  let desired ← (desiredTable table properties : Except MigrationError _)
  clearUp options table
  let live ← currentColumns table
  let plan := Plan.make options desired live
  let copied ← carryOut options properties desired (live.getD []) 0 plan.steps
  return changeOf plan copied

/-- The message after a migration. -/
def doneMessage (table : String) : String := table ++ " migrated successfully"

end Migration

end DocTables
