import DocTables.Migration.ReportedColumn
import DocTables.Migration.Statement

/-!
# Plans of migrations

A plan compares a table as it should be with the table that is there. Columns can be added in place;
every other difference calls for a rebuild: a shadow table is created in the new shape, the rows are
copied into it, the old table is dropped and the shadow takes its name.
-/

namespace DocTables

/-! ### Options -/

/-- How migrations are done. -/
structure MigrationOptions where
  /-- What is appended to the name of a table to name its shadow. -/
  shadowSuffix : String := "_shadow"
  /-- Whether indexes are created. -/
  createIndexes : Bool := true
  /-- How many rows are copied by one statement; zero stands for one. -/
  batchSize : Nat := 100
deriving DecidableEq, Repr

/-- The name of the shadow of a table. -/
def MigrationOptions.shadowName (options : MigrationOptions) (table : String) : String :=
  table ++ options.shadowSuffix

/-! ### Steps -/

/-- One step of a migration. -/
inductive PlanStep where
  /-- Creates a table that is not there. -/
  | createTable (table : Table)
  /-- Adds a column in place. -/
  | addColumn (table : String) (column : Column)
  /-- Creates the shadow of a table. -/
  | createShadow (table : Table)
  /-- Copies the rows of a table, in the new shape. -/
  | copyRows (source target : String)
  /-- Drops a table. -/
  | dropTable (table : String)
  /-- Gives a table another name. -/
  | renameTable (source target : String)
  /-- Creates the index on a column. -/
  | createIndex (table column : String)
deriving DecidableEq, Repr

namespace PlanStep

/-- The statement of a step; rows are copied by several statements. -/
def statement? : PlanStep → Option MigrationStatement
  | .createTable table => some (.createTable table)
  | .addColumn table column => some (.addColumn table column)
  | .createShadow table => some (.createTable table)
  | .copyRows .. => none
  | .dropTable table => some (.dropTable table)
  | .renameTable source target => some (.renameTable source target)
  | .createIndex table column => some (.createIndex table column)

/-- The text of the statement of a step. -/
def sql? (step : PlanStep) : Option String := step.statement?.map (·.sql)

/-- A step as a plan shows it. -/
def text : PlanStep → String
  | .copyRows source target => "-- copy rows from " ++ source ++ " into " ++ target
  | step => match step.sql? with
    | some sql => sql ++ ";"
    | none => ""

end PlanStep

/-! ### Differences -/

/-- A difference that calls for a rebuild. -/
inductive Difference where
  /-- A live column is not declared. -/
  | removed (column : String)
  /-- A declared column is missing and cannot be added in place. -/
  | notAddable (column : String)
  /-- The type is another. -/
  | type (column live declared : String)
  /-- The primary key is another. -/
  | primaryKey (column : String)
  /-- The exclusion of repeated values is another. -/
  | unique (column : String)
  /-- The exclusion of `NULL` is another. -/
  | notNull (column : String)
  /-- The default is another. -/
  | default (column : String) (live declared : Option String)
deriving DecidableEq, Repr

/-- The words for a difference. -/
def Difference.text : Difference → String
  | .removed column => "column '" ++ column ++ "' removed"
  | .notAddable column => "column '" ++ column ++ "' cannot be added in place"
  | .type column live declared =>
    "column '" ++ column ++ "' type changed from " ++ live ++ " to " ++ declared
  | .primaryKey column => "column '" ++ column ++ "' primary key changed"
  | .unique column => "column '" ++ column ++ "' UNIQUE changed"
  | .notNull column => "column '" ++ column ++ "' NOT NULL changed"
  | .default column live declared =>
    "column '" ++ column ++ "' default changed from " ++ live.getD "none" ++ " to " ++
      declared.getD "none"

/-- How a live column differs from its declaration. The exclusion of repeated values is compared
only outside the primary key, whose own index takes it in. -/
def columnDifferences (column : Column) (live : ReportedColumn) : List Difference :=
  (if column.type.isNamedBy live.declaredType then []
    else [.type column.name live.declaredType column.type.name]) ++
  (if column.primaryKey = live.primaryKey then [] else [.primaryKey column.name]) ++
  (if column.primaryKey ∨ column.unique = live.unique then [] else [.unique column.name]) ++
  (if column.notNull = live.notNull then [] else [.notNull column.name]) ++
  (if column.defaultLiteral = live.default then []
    else [.default column.name live.default column.defaultLiteral])

/-- The live columns that are not declared. -/
def removedColumns (table : Table) (live : List ReportedColumn) : List Difference :=
  (live.filter fun column => (table.column? column.name).isNone).map fun column =>
    .removed column.name

/-- The differences of one declared column from the live columns. -/
def declaredDifferences (live : List ReportedColumn) (column : Column) : List Difference :=
  match live.find? fun current => current.name == column.name with
  | some current => columnDifferences column current
  | none => if column.isAddable then [] else [.notAddable column.name]

/-- The differences that call for a rebuild: first the live columns that are not declared, then
those of the declared columns in order. -/
def differences (table : Table) (live : List ReportedColumn) : List Difference :=
  removedColumns table live ++ table.columns.flatMap (declaredDifferences live)

/-- The declared columns that are missing and can be added in place. -/
def additions (table : Table) (live : List ReportedColumn) : List Column :=
  table.columns.filter fun column =>
    (live.find? fun current => current.name == column.name).isNone && column.isAddable

/-! ### Plans -/

/-- What a plan does to the table as a whole. -/
inductive PlanCourse where
  /-- The table is created. -/
  | create
  /-- Columns are added in place. -/
  | alter
  /-- The table is rebuilt. -/
  | rebuild
  /-- The table is as it should be. -/
  | unchanged
deriving DecidableEq, Repr, Inhabited

/-- The name of a course where plans are shown. -/
def PlanCourse.name : PlanCourse → String
  | .create => "Create"
  | .alter => "Alter"
  | .rebuild => "Rebuild"
  | .unchanged => "Unchanged"

/-- The steps that bring a live table to its declared shape. -/
structure Plan where
  /-- The table. -/
  table : String
  /-- What is done to the table as a whole. -/
  course : PlanCourse
  /-- The steps in order. -/
  steps : List PlanStep
  /-- The names of the columns that are added in place. -/
  added : List String
  /-- Why the table is rebuilt. -/
  reasons : List Difference
deriving DecidableEq, Repr

namespace Plan

/-- The steps that rebuild a table through its shadow. -/
def rebuildSteps (table : Table) (shadow : String) : List PlanStep :=
  [.createShadow (table.withName shadow), .copyRows table.name shadow, .dropTable table.name,
    .renameTable shadow table.name]

/-- The steps that create the indexes of a table. -/
def indexSteps (options : MigrationOptions) (table : Table) : List PlanStep :=
  if options.createIndexes then table.indexNames.map (.createIndex table.name) else []

/-- The plan for a table and its live columns; there are none where the table does not exist. -/
def make (options : MigrationOptions) (table : Table) (live : Option (List ReportedColumn)) :
    Plan :=
  let indexes := indexSteps options table
  match live with
  | none => ⟨table.name, .create, .createTable table :: indexes, [], []⟩
  | some live =>
    let reasons := differences table live
    let added := additions table live
    if !reasons.isEmpty then
      ⟨table.name, .rebuild, rebuildSteps table (options.shadowName table.name) ++ indexes, [],
        reasons⟩
    else if !added.isEmpty then
      ⟨table.name, .alter, added.map (.addColumn table.name) ++ indexes, added.map Column.name, []⟩
    else ⟨table.name, .unchanged, indexes, [], []⟩

/-- A plan as it is shown: a line for the table, one for each reason and one for each step. -/
def text (plan : Plan) : String :=
  "-- " ++ plan.table ++ ": " ++ plan.course.name ++ "\n" ++
    String.join (plan.reasons.map fun reason => "--   " ++ reason.text ++ "\n") ++
    String.join (plan.steps.map fun step => step.text ++ "\n")

end Plan

end DocTables
