import DocTables.Json.Shown

/-!
# What a storage answers

A storage runs one statement at a time and answers with rows or with the effect of a write; or it
fails, with a message of its own.
-/

namespace DocTables

/-- A row: the values of its columns, in order. -/
abbrev Row := Json.Fields

/-- The answer to one statement. -/
inductive Reply where
  /-- The rows of a read. -/
  | rows (rows : List Row)
  /-- The effect of a write: the key the storage made up for a new row, and the number of rows
  changed. -/
  | written (insertedId : Option Int) (rowsAffected : Nat)
deriving Inhabited

namespace Reply

/-- The rows of a read; a write has none. -/
def toRows : Reply → List Row
  | .rows list => list
  | .written .. => []

/-- The number of rows changed; a read changes none. -/
def rowsAffected : Reply → Nat
  | .rows _ => 0
  | .written _ count => count

/-- The key made up for a new row. -/
def insertedId : Reply → Option Int
  | .rows _ => none
  | .written id _ => id

/-- An answer as it is shown in messages, with all of its rows. -/
def shown : Reply → String
  | .rows list => "Rows([" ++ ", ".intercalate (list.map Json.Fields.shown) ++ "])"
  | .written id count =>
    let id := match id with
      | none => "None"
      | some n => "Some(" ++ toString n ++ ")"
    "Write \x7b inserted_id: " ++ id ++ ", rows_affected: " ++ toString count ++ " \x7d"

/-- An answer in brief: of a read, that it was one. -/
def brief : Reply → String
  | .rows _ => "Rows"
  | reply => reply.shown

example : shown (.rows [[("name", .string "O\x27Brien"), ("age", .number (.int 20))], []]) =
    "Rows([\x7b\"name\": String(\"O\x27Brien\"), \"age\": Number(20)\x7d, \x7b\x7d])" := by
  decide +kernel

end Reply

/-- The failure of a storage, in its own words. -/
structure StorageError where
  /-- The words. -/
  message : String
deriving DecidableEq, Repr, Inhabited

/-- Why a run of statements came to no result: the storage failed, or the program refused to go
on. -/
inductive Failure (ε : Type) where
  /-- The storage failed. -/
  | storage (error : StorageError)
  /-- The program refused. -/
  | refused (reason : ε)
deriving DecidableEq, Repr

end DocTables
