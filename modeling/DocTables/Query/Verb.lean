/-!
# Verbs of statements

What a statement does, and how much of what it finds it yields.
-/

namespace DocTables

/-- What a statement does to its table. -/
inductive Verb where
  /-- Reads rows. -/
  | select
  /-- Reads the different values of a column. -/
  | distinct
  /-- Counts rows. -/
  | count
  /-- Adds rows. -/
  | insert
  /-- Changes rows. -/
  | update
  /-- Removes rows. -/
  | delete
deriving DecidableEq, Repr, Inhabited

/-- The name of the verb in messages. -/
def Verb.name : Verb → String
  | .select => "SELECT"
  | .distinct => "SELECT DISTINCT"
  | .count => "COUNT"
  | .insert => "INSERT"
  | .update => "UPDATE"
  | .delete => "DELETE"

/-- How many of the matching records a read yields. -/
inductive Extent where
  /-- All of them. -/
  | all
  /-- The first one, if there is one. -/
  | first
deriving DecidableEq, Repr, Inhabited

end DocTables
