import DocTables.Schema.Error
import DocTables.Text.AsciiCase
import DocTables.Text.Blank

/-!
# Types of properties and of columns

A property of a document has one of six types; each is kept in a column of one of four types.
-/

namespace DocTables

/-- The type of a column. -/
inductive ColumnType where
  /-- Text. -/
  | text
  /-- A number. -/
  | real
  /-- An integer. -/
  | integer
  /-- A date; the values written are texts. -/
  | dateTime
deriving DecidableEq, Repr

namespace ColumnType

/-- The name of the type in the definition of a column. -/
def name : ColumnType → String
  | .text => "TEXT"
  | .real => "REAL"
  | .integer => "INTEGER"
  | .dateTime => "DATETIME"

/-- Whether the type that a live table reports is this one: blanks around the name and the case of
its letters do not matter. -/
def isNamedBy (type : ColumnType) (declared : String) : Bool :=
  Text.equalIgnoringAsciiCase type.name (Text.trim declared)

end ColumnType

/-- The type of a property. -/
inductive PropertyType where
  /-- A text. -/
  | string
  /-- A number, whole or not. -/
  | number
  /-- A truth value, stored as an integer. -/
  | boolean
  /-- An instant, stored as a text. -/
  | date
  /-- A list, stored as its JSON text. -/
  | array
  /-- A nested document, stored as its JSON text. -/
  | object
deriving DecidableEq, Repr

namespace PropertyType

/-- Every type of property. -/
def all : List PropertyType := [.string, .number, .boolean, .date, .array, .object]

/-- The name of the type in a schema. -/
def name : PropertyType → String
  | .string => "String"
  | .number => "Number"
  | .boolean => "Boolean"
  | .date => "Date"
  | .array => "Array"
  | .object => "Object"

/-- The type of the column that keeps the property. -/
def columnType : PropertyType → ColumnType
  | .string => .text
  | .number => .real
  | .boolean => .integer
  | .date => .dateTime
  | .array => .text
  | .object => .text

/-- The type that a descriptor names: blanks around the name and the case of its letters do not
matter. -/
def ofDescriptor (descriptor : String) : Except SchemaError PropertyType :=
  match all.find? fun type => Text.equalIgnoringAsciiCase type.name (Text.trim descriptor) with
  | some type => .ok type
  | none => .error (.unsupportedType descriptor)

end PropertyType

end DocTables
