import DocTables.Query.Verb
import DocTables.Schema.Error
import DocTables.Storage.Reply

/-!
# What can be wrong with a query
-/

namespace DocTables

/-- The shapes of values that operators expect. -/
inductive Shape where
  /-- A document. -/
  | document
  /-- A list of filter documents. -/
  | filterDocuments
  /-- The value of a field, or an object that holds an operator. -/
  | valueOrOperator
  /-- Neither a list nor an object. -/
  | scalar
  /-- A list that is not empty. -/
  | nonEmptyList
  /-- A list of scalars. -/
  | scalarList
  /-- A document of assignments. -/
  | assignments
  /-- A list of names of fields. -/
  | fieldNames
  /-- Anything that tells how to sort. -/
  | sorting
deriving DecidableEq, Repr

/-- The words for a shape. -/
def Shape.name : Shape → String
  | .document => "a document"
  | .filterDocuments => "a list of filter documents"
  | .valueOrOperator => "a value or an operator object"
  | .scalar => "a scalar value"
  | .nonEmptyList => "a non-empty list"
  | .scalarList => "a list of scalar values"
  | .assignments => "a document of assignments"
  | .fieldNames => "a list of field names"
  | .sorting => "a field, a list of fields or a mapping of field to direction"

/-- Why a name, a filter document or a clause is refused. -/
inductive QueryFault where
  /-- The filter document has more levels than `Filter.maxLevels`. -/
  | nestedTooDeep (levels : Nat)
  /-- An operator of comparison stands where a field should. -/
  | operatorWithoutField (key : String)
  /-- The operator is not known. -/
  | unknownOperator (key : String)
  /-- A group has no members. -/
  | emptyGroup
  /-- A member of a group has no conditions. -/
  | emptyMember (operator : String)
  /-- An object with an operator for the field has other keys too. -/
  | severalOperators (field : String)
  /-- The list of values of a field is empty. -/
  | emptyList
  /-- The name of the field is not acceptable. -/
  | invalidField (name : String)
  /-- The name of the table is not acceptable. -/
  | invalidTable (name : String)
  /-- The name of the column is not acceptable. -/
  | invalidColumn (name : String)
  /-- The name of the field to sort by is not acceptable. -/
  | invalidSortField (name : String)
  /-- There is no document to insert. -/
  | nothingToInsert
  /-- A comparison has no field. -/
  | noPendingField
  /-- The conditions are fixed already. -/
  | finalized
  /-- A field was named and never compared. -/
  | danglingField (name : String)
  /-- An insertion has conditions. -/
  | insertWithConditions
  /-- A change has no assignments. -/
  | updateWithoutAssignments
  /-- Statements with this verb have no order and no limits. -/
  | notPageable (verb : Verb)
  /-- Several documents without any key are to be inserted at once. -/
  | severalEmptyDocuments
deriving DecidableEq, Repr

/-- The words for a fault. -/
def QueryFault.message : QueryFault → String
  | .nestedTooDeep levels => "filter nested deeper than " ++ toString levels ++ " levels"
  | .operatorWithoutField key => "operator " ++ key ++ " must be nested under a field"
  | .unknownOperator key => "unknown operator " ++ key
  | .emptyGroup => "empty logical group"
  | .emptyMember operator => "empty filter document in " ++ operator
  | .severalOperators field => "operator object for '" ++ field ++ "' must have exactly one key"
  | .emptyList => "$in requires at least one value"
  | .invalidField name => "invalid field name '" ++ name ++ "'"
  | .invalidTable name => "invalid table name '" ++ name ++ "'"
  | .invalidColumn name => "invalid column name '" ++ name ++ "'"
  | .invalidSortField name => "invalid sort field '" ++ name ++ "'"
  | .nothingToInsert => "nothing to insert"
  | .noPendingField => "no pending field"
  | .finalized => "conditions cannot change after the statement is finalized"
  | .danglingField name => "field '" ++ name ++ "' has no comparison"
  | .insertWithConditions => "INSERT cannot take conditions"
  | .updateWithoutAssignments => "UPDATE needs at least one assignment"
  | .notPageable verb => verb.name ++ " cannot take ORDER BY, LIMIT or OFFSET"
  | .severalEmptyDocuments =>
    "several empty documents cannot be inserted in one statement"

/-- Why a query is refused. -/
inductive QueryError where
  /-- A name, a filter document or a clause is not acceptable. -/
  | invalid (fault : QueryFault)
  /-- An operator, a field or an operation got a value of the wrong shape. -/
  | mismatch (operator : String) (expected : Shape)
  /-- The schema is not acceptable. -/
  | schema (error : SchemaError)
  /-- The storage answered with something that a statement with this verb does not produce. -/
  | unexpectedReply (verb : Verb) (reply : Reply)
  /-- The storage answered a count without a number. -/
  | noCount

/-- The message of an error, in which an answer of the storage is told in a given way. -/
def QueryError.messageWith (tell : Reply → String) : QueryError → String
  | .invalid fault => "validation error: " ++ fault.message
  | .mismatch operator expected => "type error: " ++ operator ++ " expects " ++ expected.name
  | .schema error => error.message
  | .unexpectedReply verb reply =>
    "unexpected result: " ++ verb.name ++ " statement produced " ++ tell reply
  | .noCount => "unexpected result: count query returned no count"

/-- The message of an error, with all that the storage answered. -/
def QueryError.fullMessage : QueryError → String := messageWith Reply.shown

/-- The message of an error in one short line: it tells of rows only that there were some. -/
def QueryError.message : QueryError → String := messageWith Reply.brief

end DocTables
