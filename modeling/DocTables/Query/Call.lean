import DocTables.Query.Basic

/-!
# Chains of calls

The calls on queries as values, so that a chain of calls can be stored, decoded and reasoned about.
-/

namespace DocTables

/-- A call that takes a query to the next one. -/
inductive QueryCall where
  /-- Reads the records that a filter document describes. -/
  | find (document : Json)
  /-- Restricts a read to columns. -/
  | select (columns : List String)
  /-- Reads the first record that a filter document describes. -/
  | findOne (document : Json)
  /-- Reads the record with a value of the field `id`. -/
  | findById (id : Json)
  /-- Inserts a document. -/
  | insert (document : Json)
  /-- Inserts several documents with one statement. -/
  | insertMany (documents : List Json)
  /-- Sets columns of the records that a filter document describes. -/
  | update (document assignments : Json)
  /-- Removes the records that a filter document describes. -/
  | remove (document : Json)
  /-- Counts the records that a filter document describes. -/
  | count (document : Json)
  /-- Reads the different values of a field. -/
  | distinct (field : String) (document : Json)
  /-- Adds the conditions of a filter document. -/
  | filter (document : Json)
  /-- Names the field that the next comparison is about. -/
  | onField (field : String)
  /-- Compares the field that was named with a value. -/
  | compare (comparator : Comparator) (value : Json)
  /-- Compares a field with a value. -/
  | compareField (field : String) (comparator : Comparator) (value : Json)
  /-- Sets the largest number of rows. -/
  | limit (value : Json)
  /-- Sets the number of rows to skip. -/
  | offset (value : Json)
  /-- Adds the terms that a value spells to the order. -/
  | sort (spec : Json)
  /-- Adds one term to the order. -/
  | orderBy (spec : String)
  /-- Fixes the conditions, as rendering does too, whether or not it gives a text. -/
  | finalize

namespace Query

/-- Makes a call. -/
def call (query : Query) : QueryCall → Except QueryError Query
  | .find document => query.find document
  | .select columns => query.select columns
  | .findOne document => query.findOne document
  | .findById id => query.findById id
  | .insert document => query.insert document
  | .insertMany documents => query.insertMany documents
  | .update document assignments => query.update document assignments
  | .remove document => query.remove document
  | .count document => query.count document
  | .distinct field document => query.distinct field document
  | .filter document => query.filter document
  | .onField field => query.onField field
  | .compare comparator value => query.compare comparator value
  | .compareField field comparator value => query.compareField field comparator value
  | .limit value => .ok (query.setLimit value)
  | .offset value => .ok (query.setOffset value)
  | .sort spec => query.sort spec
  | .orderBy spec => query.orderBy spec
  | .finalize => .ok query.finalize

/-- Makes the calls of a chain one after the other, up to the first one that is refused. -/
def callAll (query : Query) : List QueryCall → Except QueryError Query
  | [] => .ok query
  | first :: rest => do
    let query ← query.call first
    query.callAll rest

end Query

end DocTables
