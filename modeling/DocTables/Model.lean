import DocTables.Query.Basic
import DocTables.Record
import DocTables.Schema.Table
import DocTables.Text.Lowercase

/-!
# Models

A model describes one kind of document: it has a name, the properties of the documents and the table
that keeps them.
-/

namespace DocTables

/-- The name of the table of a model: the name of the model in small letters, and an `s`. -/
def modelTableName (model : String) : String := Text.lowercase model ++ "s"

/-- The description of one kind of document. -/
structure Model where
  /-- The name. -/
  name : String
  /-- The name of the table. -/
  table : String
  /-- The properties of the documents. -/
  properties : PropertySet

namespace Model

/-- A model that is kept in a table of the given name, which must be plain. -/
def inTable (name table : String) (properties : PropertySet) : Except QueryError Model :=
  if isPlainName table then .ok ⟨name, table, properties⟩
  else .error (.schema (.invalidIdentifier table))

/-- A model that is kept in the table named after it. -/
def ofModel (name : String) (properties : PropertySet) : Except QueryError Model :=
  inTable name (modelTableName name) properties

/-- The same model in another table. -/
def withTable (model : Model) (table : String) : Except QueryError Model :=
  inTable model.name table model.properties

/-- The table as it should be. -/
def schema (model : Model) : Except QueryError Table :=
  match Table.ofProperties model.table model.properties with
  | .ok table => .ok table
  | .error error => .error (.schema error)

/-- The query that reads the whole table. -/
def query (model : Model) : Except QueryError Query := Query.ofTable model.table

/-- The fields of a document that are declared, and the defaults of those it lacks, in the order of
their declaration. Declared fields without either are left out. -/
def declaredFields (properties : List Property) (document : Json.Fields) : Row :=
  properties.filterMap fun property =>
    match document.get? property.name with
    | some value => some (property.name, value)
    | none => property.default.map fun value => (property.name, value)

/-- The query that inserts a document, without the fields that are not declared and with the
defaults of those it lacks. -/
def create (model : Model) (document : Json) : Except QueryError Query :=
  match document with
  | .object fields => do
    let query ← model.query
    query.insert (.object (declaredFields model.properties.toList fields))
  | _ => .error (.mismatch "create" .document)

/-- A record that is not stored yet. It has every declared field, with the value of the data, the
default or `null`; the fields of the data that are not declared come after them. -/
def draft (model : Model) (data : Json) : Record :=
  let declared := model.properties.toList.map fun property =>
    (property.name, property.defaultValue)
  let given := match data with
    | .object fields => fields
    | _ => []
  ⟨model.table, Json.Fields.ofEntries (declared ++ given)⟩

end Model

end DocTables
