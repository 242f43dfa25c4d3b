import DocTables.Json.Printer
import DocTables.Schema.Error
import DocTables.Text.Shown

/-!
# What can be wrong with a schema document
-/

namespace DocTables

/-- Why a JSON value is no schema document. -/
inductive DocumentFault where
  /-- A value stands where a text should. -/
  | notText (found : Json)
  /-- The document is neither an object nor a list. -/
  | notADocument (found : Json)
  /-- The object has no declarations of properties. -/
  | noProperties
  /-- The list ends before the declarations of properties. -/
  | tooShort
  /-- The list goes on after the declarations of properties. -/
  | tooLong (length : Nat)

/-- How a message names a value. -/
def describeValue : Json → String
  | .null => "null"
  | .bool b => "boolean `" ++ (if b then "true" else "false") ++ "`"
  | .number (.int n) => "integer `" ++ toString n ++ "`"
  | .number (.float x) => "floating point `" ++ (Json.Number.float x).text ++ "`"
  | .string s => "string " ++ Text.shown s
  | .array _ => "sequence"
  | .object _ => "map"

/-- The words for a fault. -/
def DocumentFault.message : DocumentFault → String
  | .notText found => "invalid type: " ++ describeValue found ++ ", expected a string"
  | .notADocument found => "invalid type: " ++ describeValue found ++ ", expected struct SchemaFile"
  | .noProperties => "missing field `properties`"
  | .tooShort => "invalid length 2, expected struct SchemaFile with 3 elements"
  | .tooLong length =>
    "invalid length " ++ toString length ++ ", expected fewer elements in array"

/-- Why a schema file cannot be used. -/
inductive SchemaDocumentError where
  /-- The file cannot be read, or is no text. -/
  | unreadable
  /-- The text of the file is no schema document. -/
  | malformed (path : String)
  /-- The value is no schema document. -/
  | document (fault : DocumentFault)
  /-- The document names neither a table nor a model. -/
  | unnamed (path : String)
  /-- The declarations are not acceptable. -/
  | schema (error : SchemaError)

/-- The message of an error. -/
def SchemaDocumentError.message : SchemaDocumentError → String
  | .unreadable => "IO error: the file cannot be read as text"
  | .malformed path => "Failed to read schema file '" ++ path ++ "': not a schema document"
  | .document fault => "Serialization error: " ++ fault.message
  | .unnamed path =>
    "Failed to read schema file '" ++ path ++ "': neither 'table' nor 'model' is set"
  | .schema error => error.message

end DocTables
