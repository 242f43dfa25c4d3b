/-!
# What can be wrong with a schema
-/

namespace DocTables

/-- Why a schema is refused. -/
inductive SchemaError where
  /-- The named type is none of the types of properties. -/
  | unsupportedType (descriptor : String)
  /-- The property has no type. -/
  | missingType (property : String)
  /-- The property is declared twice. -/
  | duplicateProperty (property : String)
  /-- The property is a primary key after another one. -/
  | duplicatePrimaryKey (property : String)
  /-- The name of a table or property is no plain name. -/
  | invalidIdentifier (name : String)
  /-- The declarations are no object. -/
  | notAnObject
  /-- The declaration of a property has none of the accepted forms. -/
  | malformedProperty (property : String)
deriving DecidableEq, Repr

/-- The message of an error. -/
def SchemaError.message : SchemaError → String
  | .unsupportedType descriptor => "unsupported property type: " ++ descriptor
  | .missingType property => "property '" ++ property ++ "' has no type"
  | .duplicateProperty property => "duplicate property '" ++ property ++ "'"
  | .duplicatePrimaryKey property => "property '" ++ property ++ "' is a second primary key"
  | .invalidIdentifier name => "invalid identifier '" ++ name ++ "'"
  | .notAnObject => "malformed schema declaration: properties must be an object"
  | .malformedProperty property =>
    "malformed schema declaration: property '" ++ property ++
      "': data did not match any variant of untagged enum RawProperty"

end DocTables
