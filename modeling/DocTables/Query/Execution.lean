import DocTables.Query.Basic
import DocTables.Storage.Dialogue

/-!
# Running a query

A query is rendered first, so a query that cannot be expressed sends nothing. Then its one statement
is sent, and the answer is read as its verb demands.
-/

namespace DocTables

/-- The result of a query, with records of a type of the caller's. -/
inductive QueryResult (ρ : Type) where
  /-- The records of a read, in order. -/
  | many (records : List ρ)
  /-- The first record of a read. -/
  | one (record : Option ρ)
  /-- The key made up for an inserted row. -/
  | inserted (id : Option Int)
  /-- The number of rows changed. -/
  | affected (count : Nat)
  /-- The number of rows counted. -/
  | counted (count : Nat)

namespace QueryResult

variable {ρ : Type}

/-- The records of a read. -/
def records : QueryResult ρ → List ρ
  | .many list => list
  | .one record => record.toList
  | _ => []

/-- The first record of a read. -/
def first? (result : QueryResult ρ) : Option ρ := result.records.head?

/-- The number of rows counted. -/
def count? : QueryResult ρ → Option Nat
  | .counted n => some n
  | _ => none

/-- The number of rows changed. -/
def rowsAffected? : QueryResult ρ → Option Nat
  | .affected n => some n
  | _ => none

/-- The key made up for an inserted row. -/
def insertedId? : QueryResult ρ → Option Int
  | .inserted id => id
  | _ => none

end QueryResult

namespace Query

variable {ρ : Type}

/-- The natural number of 64 bits that a count is given by: such a number as it is, any other one
without its fraction and moved into their range. -/
def countValue? : Json → Option Nat
  | .number n =>
    match n.toNat64? with
    | some count => some count
    | none => some (match n.toBinary64 with
      | .infinite false => Json.greatestNat64
      | x => min Json.greatestNat64 (x.truncate?.getD 0).toNat)
  | _ => none

/-- The count in the first row of an answer. -/
def countOf (rows : List Row) : Except QueryError Nat :=
  match (rows.head?.bind fun row => row.get? "count").bind countValue? with
  | some count => .ok count
  | none => .error .noCount

/-- The records of the rows that are not empty. -/
def records (query : Query) (record : String → Row → ρ) (rows : List Row) : List ρ :=
  (rows.filter fun row => !row.isEmpty).map (record query.table)

/-- What an answer means for a query; an answer that its verb does not produce is
refused. -/
def interpret (query : Query) (record : String → Row → ρ) (reply : Reply) :
    Except QueryError (QueryResult ρ) :=
  match query.verb, reply with
  | .select, .rows rows | .distinct, .rows rows =>
    match query.extent with
    | .all => .ok (.many (query.records record rows))
    | .first => .ok (.one (query.records record rows).head?)
  | .count, .rows rows => (countOf rows).map .counted
  | .insert, .written id _ => .ok (.inserted id)
  | .update, .written _ count | .delete, .written _ count => .ok (.affected count)
  | verb, reply => .error (.unexpectedReply verb reply)

/-- Runs the statement of a query; `record` makes a record of a row of the table. -/
def execute (query : Query) (record : String → Row → ρ) :
    Dialogue QueryStatement QueryError (QueryResult ρ) := do
  let statement ← (query.finalize.statement : Except QueryError QueryStatement)
  let reply ← Dialogue.send statement
  (query.interpret record reply : Except QueryError (QueryResult ρ))

end Query

end DocTables
