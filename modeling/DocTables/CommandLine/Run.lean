import DocTables.CommandLine.Help
import DocTables.Migration.Basic
import DocTables.Migration.Database
import DocTables.SchemaDocument.Basic

/-!
# Running commands

Files are worked on in order, on a database that is empty at first. The first error ends the run;
what was printed before it stays.
-/

namespace DocTables.CommandLine

/-- Why a command stops at a file. -/
inductive CommandError where
  /-- The file cannot be used. -/
  | file (error : SchemaDocumentError)
  /-- The migration failed. -/
  | migration (failure : Failure MigrationError)

/-- The message of an error. -/
def CommandError.message : CommandError → String
  | .file error => error.message
  | .migration (.storage error) => error.message
  | .migration (.refused reason) => reason.message

/-- What a run of the program leaves behind. -/
structure Outcome where
  /-- The text that was printed. -/
  output : String
  /-- The error that ended the run. -/
  error : Option CommandError
  /-- The exit code: 0 for a run without an error, 1 for an error, 2 for words that are not
  understood. -/
  exitCode : Nat

/-- What can be read: the bytes of the file with a path, if there are any. -/
abbrev Files := String → Option ByteArray

/-- Reads a schema file. -/
def load (files : Files) (path : String) : Except CommandError SchemaDocument :=
  match SchemaDocument.ofBytes path (files path) with
  | .ok file => .ok file
  | .error error => .error (.file error)

/-- The result of reading a schema document as the result of a command. -/
def ofFile {α : Type} : Except SchemaDocumentError α → Except CommandError α
  | .ok value => .ok value
  | .error error => .error (.file error)

/-- Runs statements against the database. -/
def onDatabase {α : Type} (program : Migrating α) (database : Database) :
    Except CommandError (α × Database) :=
  match program.run Database.storage database with
  | (.ok value, database) => .ok (value, database)
  | (.error failure, _) => .error (.migration failure)

/-- Works on one file: the text that is printed and the database afterwards. -/
def runFile (options : MigrationOptions) (command : Command) (files : Files) (path : String)
    (database : Database) : Except CommandError (String × Database) := do
  let file ← load files path
  match command with
  | .ddl =>
    let plan := Plan.make options (← ofFile file.tableSchema) none
    return (String.join (plan.steps.map fun step => step.text ++ "\n"), database)
  | .plan =>
    let table ← ofFile file.tableName
    let properties ← ofFile file.propertySet
    let (plan, database) ← onDatabase (Migration.preview options table properties) database
    return (plan.text, database)
  | .alter =>
    let table ← ofFile file.tableName
    let properties ← ofFile file.propertySet
    let (_, database) ← onDatabase (Migration.migrate options table properties) database
    return (Migration.doneMessage table ++ "\n", database)

/-- Works on files in order, after some text was printed. -/
def runFiles (options : MigrationOptions) (command : Command) (files : Files) (output : String)
    (database : Database) : List String → Outcome
  | [] => ⟨output, none, 0⟩
  | path :: rest =>
    match runFile options command files path database with
    | .ok (text, database) => runFiles options command files (output ++ text) database rest
    | .error error => ⟨output, some error, 1⟩

/-- Runs the program of a name with the words of its command line. -/
def run (program : String) (files : Files) (words : List String) : Outcome :=
  match parse? words with
  | none => ⟨"", none, 2⟩
  | some (.help topic) => ⟨helpText program topic, none, 0⟩
  | some .version => ⟨versionText program, none, 0⟩
  | some (.run options command paths) => runFiles options command files "" .empty paths

end DocTables.CommandLine
