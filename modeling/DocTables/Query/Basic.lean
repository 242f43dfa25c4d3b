import DocTables.Query.Filter
import DocTables.Query.Statement
import DocTables.Text.Blank

/-!
# Queries

A query is a statement on one table that is still being put together: its verb, its conditions, its
order and limits, and the rows or assignments it writes. Each call takes a query to the next one or
refuses. Conditions accumulate until the query is finalized, which its first rendering does; from
then on they are fixed.
-/

namespace DocTables

/-- A statement that is being put together. -/
structure Query where
  /-- What the statement does. -/
  verb : Verb
  /-- The table. -/
  table : String
  /-- The columns to read; all of them, if none is named. -/
  columns : List String
  /-- The conditions so far. -/
  condition : Option Condition
  /-- A field that was named and not yet compared. -/
  pendingField : Option String
  /-- The order. -/
  order : List OrderTerm
  /-- The largest number of rows. -/
  limit : Option Int
  /-- The number of rows to skip. -/
  offset : Option Int
  /-- The documents to insert. -/
  rows : List Row
  /-- The columns to set. -/
  assignments : List (String × Scalar)
  /-- The conditions as they were when the query was finalized. -/
  whereClause : Option Condition
  /-- Whether the query has been finalized. -/
  finalized : Bool
  /-- How many records a read yields. -/
  extent : Extent
deriving Inhabited

namespace Query

/-- The query that reads all rows of a table. -/
def ofTable (table : String) : Except QueryError Query :=
  if isPlainName table then
    .ok ⟨.select, table, [], none, none, [], none, none, [], [], none, false, .all⟩
  else .error (.invalid (.invalidTable table))

/-! ### Conditions -/

/-- Refuses a query whose conditions are fixed. -/
def requireOpen (query : Query) : Except QueryError Unit :=
  if query.finalized then .error (.invalid .finalized) else .ok ()

/-- Adds a condition: it must hold together with the ones there are. -/
def addCondition (query : Query) (condition : Condition) : Query :=
  { query with
    condition := some (match query.condition with
      | none => condition
      | some present => present.and condition) }

/-- Adds the conditions of a filter document. -/
def filter (query : Query) (document : Json) : Except QueryError Query := do
  query.requireOpen
  match ← Filter.compile document with
  | none => return query
  | some condition => return query.addCondition condition

/-- Names the field that the next comparison is about. -/
def onField (query : Query) (field : String) : Except QueryError Query := do
  query.requireOpen
  if isColumnPath field then return { query with pendingField := some field }
  else throw (.invalid (.invalidField field))

/-- Compares the field that was named with a value. -/
def compare (query : Query) (comparator : Comparator) (value : Json) : Except QueryError Query := do
  query.requireOpen
  match query.pendingField with
  | none => throw (.invalid .noPendingField)
  | some field =>
    let operand ← Operand.ofJson comparator value
    let comparison ← Comparison.make field comparator operand
    return { query with pendingField := none }.addCondition (.comparison comparison)

/-- Compares a field with a value. -/
def compareField (query : Query) (field : String) (comparator : Comparator) (value : Json) :
    Except QueryError Query := do
  let query ← query.onField field
  query.compare comparator value

/-! ### Verbs -/

/-- Reads the records that a filter document describes. -/
def find (query : Query) (document : Json) : Except QueryError Query :=
  { query with verb := .select, extent := .all }.filter document

/-- Reads the first record that a filter document describes. -/
def findOne (query : Query) (document : Json) : Except QueryError Query := do
  let query ← query.find document
  return { query with limit := some 1, offset := some 0, extent := .first }

/-- Reads the record with a value of the field `id`. -/
def findById (query : Query) (id : Json) : Except QueryError Query :=
  query.findOne (.object [("id", id)])

/-- Restricts a read to columns; the star stands for no restriction of its own. -/
def select (query : Query) : List String → Except QueryError Query
  | [] => .ok query
  | column :: rest =>
    if column = "*" then query.select rest
    else if isColumnPath column then
      { query with columns := query.columns ++ [column] }.select rest
    else .error (.invalid (.invalidColumn column))

/-- Refuses the first name that no column of a table can have. -/
def requireColumns : List String → Except QueryError Unit
  | [] => .ok ()
  | column :: rest =>
    if isPlainName column then requireColumns rest else .error (.invalid (.invalidColumn column))

/-- The rows that documents describe; the first one that is no document, or has a key that is no
name of a column, is refused. -/
def documentRows : List Json → Except QueryError (List Row)
  | [] => .ok []
  | .object row :: rest => do
    requireColumns (Json.Fields.names row)
    let rows ← documentRows rest
    return row :: rows
  | _ :: _ => .error (.mismatch "insert" .document)

/-- Inserts several documents with one statement. -/
def insertMany (query : Query) (documents : List Json) : Except QueryError Query :=
  if documents.isEmpty then .error (.invalid .nothingToInsert)
  else do
    let rows ← documentRows documents
    return { query with verb := .insert, rows := rows }

/-- Inserts a document. -/
def insert (query : Query) (document : Json) : Except QueryError Query :=
  query.insertMany [document]

/-- Sets columns of the records that a filter document describes. -/
def update (query : Query) (document assignments : Json) : Except QueryError Query :=
  match assignments with
  | .object entries => do
    requireColumns (Json.Fields.names entries)
    let assignments := entries.map fun entry => (entry.1, Scalar.ofJson entry.2)
    { query with verb := .update, assignments := assignments }.filter document
  | _ => .error (.mismatch "update" .assignments)

/-- Removes the records that a filter document describes. -/
def remove (query : Query) (document : Json) : Except QueryError Query :=
  { query with verb := .delete }.filter document

/-- Counts the records that a filter document describes. -/
def count (query : Query) (document : Json) : Except QueryError Query :=
  { query with verb := .count }.filter document

/-- Reads the different values of a field among the records that a filter document describes. -/
def distinct (query : Query) (field : String) (document : Json) : Except QueryError Query :=
  if isColumnPath field then
    { query with verb := .distinct, extent := .all, columns := [field] }.filter document
  else .error (.invalid (.invalidField field))

/-! ### Order and limits -/

/-- The integer that a number of rows is given by: an integer of 64 signed bits as it is, any other
number without its fraction and moved into their range. Other values give none. -/
def rowCount? : Json → Option Int
  | .number n =>
    match n.toInt64? with
    | some i => some i
    | none => n.toBinary64.truncate?.map fun i => max Json.leastInt64 (min Json.greatestInt64 i)
  | _ => none

/-- Sets the largest number of rows; a value that gives none changes nothing. -/
def setLimit (query : Query) (value : Json) : Query :=
  match rowCount? value with
  | some n => { query with limit := some n }
  | none => query

/-- Sets the number of rows to skip; a value that gives none changes nothing. -/
def setOffset (query : Query) (value : Json) : Query :=
  match rowCount? value with
  | some n => { query with offset := some n }
  | none => query

/-- Adds terms at the end of the order. -/
def addOrder (query : Query) : List OrderTerm → Except QueryError Query
  | [] => .ok query
  | term :: rest =>
    if isColumnPath term.column then { query with order := query.order ++ [term] }.addOrder rest
    else .error (.invalid (.invalidSortField term.column))

/-- Adds the terms that a list of names spells; the first one that is no name is refused. -/
def addOrderNames (query : Query) : List Json → Except QueryError Query
  | [] => .ok query
  | .string field :: rest => do
    let query ← query.addOrder [.ofSpec field]
    query.addOrderNames rest
  | _ :: _ => .error (.mismatch "sort" .fieldNames)

/-- Adds the terms that a value spells: the words of a text or the texts of a list, each ascending
unless a minus sign comes first, or the entries of an object from fields to directions, each
ascending unless its direction says otherwise. -/
def sort (query : Query) : Json → Except QueryError Query
  | .null => .ok query
  | .string fields => query.addOrder ((Text.words fields).map OrderTerm.ofSpec)
  | .array fields => query.addOrderNames fields
  | .object fields =>
    query.addOrder (fields.map fun entry =>
      ⟨entry.1, (Direction.ofToken? entry.2).getD .ascending⟩)
  | _ => .error (.mismatch "sort" .sorting)

/-- Adds one term, ascending unless a minus sign comes first. -/
def orderBy (query : Query) (spec : String) : Except QueryError Query :=
  query.addOrder [.ofSpec spec]

/-! ### Statements -/

/-- Fixes the conditions. Only the first time counts. -/
def finalize (query : Query) : Query :=
  if query.finalized then query
  else { query with whereClause := query.condition, finalized := true }

/-- Whether the query has an order or limits. -/
def isPaged (query : Query) : Bool :=
  !query.order.isEmpty || query.limit.isSome || query.offset.isSome

/-- Refuses a query that no statement with its verb can express. -/
def requireExpressible (query : Query) : Except QueryError Unit :=
  match query.pendingField with
  | some field => .error (.invalid (.danglingField field))
  | none =>
    match query.verb with
    | .select | .distinct => .ok ()
    | verb =>
      if verb = .insert ∧ query.whereClause.isSome then .error (.invalid .insertWithConditions)
      else if verb = .update ∧ query.assignments.isEmpty then
        .error (.invalid .updateWithoutAssignments)
      else if query.isPaged then .error (.invalid (.notPageable verb))
      else .ok ()

/-- The names of the columns of rows, in the order in which they are first seen. -/
def columnUnion (rows : List Row) : List String :=
  (rows.flatMap Json.Fields.names).foldl
    (fun columns column => if column ∈ columns then columns else columns ++ [column]) []

/-- The values of a row in the order of columns; a row has `NULL` in a column it lacks. -/
def rowValues (columns : List String) (row : Row) : List Scalar :=
  columns.map fun column => match row.get? column with
    | some value => Scalar.ofJson value
    | none => .null

/-- The statement that inserts rows. -/
def insertStatement (table : String) (rows : List Row) : Except QueryError QueryStatement :=
  let columns := columnUnion rows
  if columns.isEmpty then
    if 1 < rows.length then .error (.invalid .severalEmptyDocuments)
    else .ok (.insertDefaults table)
  else .ok (.insert table columns (rows.map (rowValues columns)))

/-- The statement that a query with fixed conditions stands for. -/
def statement (query : Query) : Except QueryError QueryStatement := do
  query.requireExpressible
  match query.verb with
  | .select =>
    return .select false query.columns query.table query.whereClause query.order query.limit
      query.offset
  | .distinct =>
    return .select true query.columns query.table query.whereClause query.order query.limit
      query.offset
  | .count => return .count query.table query.whereClause
  | .insert => insertStatement query.table query.rows
  | .update => return .update query.table query.assignments query.whereClause
  | .delete => return .delete query.table query.whereClause

/-- The text of the statement that a query stands for. -/
def render (query : Query) : Except QueryError String := query.finalize.statement.map (·.sql)

/-- The text of the statement that a query stands for, and the query as rendering leaves it: its
conditions are fixed, whether or not there is a text. -/
def rendering (query : Query) : Except QueryError String × Query := (query.render, query.finalize)

end Query

end DocTables
