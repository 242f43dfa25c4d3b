import DocTables.Query.Condition
import DocTables.Query.Order

/-!
# Statements on the rows of one table

A statement is complete: nothing can be added to it, and its text is determined.
-/

namespace DocTables

/-- A statement that reads or changes the rows of a table. -/
inductive QueryStatement where
  /-- Reads columns of the rows that meet a condition; all columns, if none is named. -/
  | select (distinct : Bool) (columns : List String) (table : String)
      (condition : Option Condition) (order : List OrderTerm) (limit offset : Option Int)
  /-- Counts the rows that meet a condition. -/
  | count (table : String) (condition : Option Condition)
  /-- Adds rows, with a value for each of the columns. -/
  | insert (table : String) (columns : List String) (rows : List (List Scalar))
  /-- Adds one row that holds the defaults of its columns. -/
  | insertDefaults (table : String)
  /-- Sets columns of the rows that meet a condition. -/
  | update (table : String) (assignments : List (String × Scalar)) (condition : Option Condition)
  /-- Removes the rows that meet a condition. -/
  | delete (table : String) (condition : Option Condition)

namespace QueryStatement

/-- The clause with the condition. -/
def whereText : Option Condition → String
  | none => ""
  | some condition => " WHERE " ++ condition.clause

/-- The clause with the order. -/
def orderText (order : List OrderTerm) : String :=
  if order.isEmpty then "" else " ORDER BY " ++ ", ".intercalate (order.map OrderTerm.text)

/-- A clause that consists of a word and a number. -/
def numberText (word : String) : Option Int → String
  | none => ""
  | some n => " " ++ word ++ " " ++ toString n

/-- The values of one row. -/
def tupleText (values : List Scalar) : String :=
  "(" ++ ", ".intercalate (values.map Scalar.literal) ++ ")"

/-- The assignment of a value to a column. -/
def assignmentText (assignment : String × Scalar) : String :=
  assignment.1 ++ " = " ++ assignment.2.literal

/-- The text of a statement. -/
def sql : QueryStatement → String
  | .select distinct columns table condition order limit offset =>
    "SELECT " ++ (if distinct then "DISTINCT " else "") ++
      (if columns.isEmpty then "*" else ", ".intercalate columns) ++ " FROM " ++ table ++
      whereText condition ++ orderText order ++ numberText "LIMIT" limit ++
      numberText "OFFSET" offset
  | .count table condition => "SELECT COUNT(*) AS count FROM " ++ table ++ whereText condition
  | .insert table columns rows =>
    "INSERT INTO " ++ table ++ " (" ++ ", ".intercalate columns ++ ") VALUES " ++
      ", ".intercalate (rows.map tupleText)
  | .insertDefaults table => "INSERT INTO " ++ table ++ " DEFAULT VALUES"
  | .update table assignments condition =>
    "UPDATE " ++ table ++ " SET " ++ ", ".intercalate (assignments.map assignmentText) ++
      whereText condition
  | .delete table condition => "DELETE FROM " ++ table ++ whereText condition

end QueryStatement

end DocTables
