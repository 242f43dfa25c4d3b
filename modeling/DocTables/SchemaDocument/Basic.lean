import DocTables.Model
import DocTables.Json.Reader
import DocTables.Schema.Declaration
import DocTables.SchemaDocument.Error

/-!
# Schema documents

A schema document names a table, directly or through a model, and declares the properties. It is an
object with the keys `table`, `model` and `properties`, or the list of the three. In an object other
keys are ignored, and in the text of a file so are their values: only the parts of the text that are
used are held to the limits of `Spelled.value?`. A file must not repeat one of the three keys.
-/

namespace DocTables

/-- A schema document. -/
structure SchemaDocument where
  /-- The name of the table, if it is given. -/
  table : Option String
  /-- The name of the model, if it is given. -/
  model : Option String
  /-- The declarations of the properties. -/
  properties : Json
  /-- The path of the file; empty for a document that is in no file. -/
  path : String
deriving Inhabited

namespace SchemaDocument

/-! ### Documents in memory -/

/-- A name that may be absent or `null`. -/
def optionalText : Json → Except DocumentFault (Option String)
  | .null => .ok none
  | .string s => .ok (some s)
  | value => .error (.notText value)

/-- The parts of a document that have been read. -/
structure Parts where
  /-- The table, once its key was read. -/
  table : Option (Option String)
  /-- The model, once its key was read. -/
  model : Option (Option String)
  /-- The declarations, once their key was read. -/
  properties : Option Json
deriving Inhabited

namespace Parts

/-- Nothing has been read. -/
def empty : Parts := ⟨none, none, none⟩

/-- The document that the parts make; there must be declarations. -/
def document? (parts : Parts) (path : String) : Option SchemaDocument :=
  parts.properties.map fun properties =>
    ⟨parts.table.join, parts.model.join, properties, path⟩

end Parts

/-- Reads the entries of an object in order. -/
def readEntries (parts : Parts) : List (String × Json) → Except DocumentFault Parts
  | [] => .ok parts
  | (key, value) :: rest =>
    if key = "table" then do
      let table ← optionalText value
      readEntries { parts with table := some table } rest
    else if key = "model" then do
      let model ← optionalText value
      readEntries { parts with model := some model } rest
    else if key = "properties" then readEntries { parts with properties := some value } rest
    else readEntries parts rest

/-- The schema document that a JSON value spells. -/
def ofJson (value : Json) : Except DocumentFault SchemaDocument :=
  match value with
  | .object entries => do
    let parts ← readEntries .empty entries
    match parts.document? "" with
    | some file => return file
    | none => throw .noProperties
  | .array items => do
    let table ← optionalText (items[0]?.getD .null)
    let model ← optionalText (items[1]?.getD .null)
    match items[2]? with
    | none => throw .tooShort
    | some properties =>
      if items.length = 3 then return ⟨table, model, properties, ""⟩
      else throw (.tooLong items.length)
  | value => .error (.notADocument value)

/-! ### Documents in files -/

/-- The deepest nesting of the declarations in a file, which stand within the document. -/
def declarationDepth : Nat := Json.maxDepth - 1

/-- A name that may be `null`, as it is spelled. -/
def spelledText? : Json.Spelled → Option (Option String)
  | .null => some none
  | .string units => (Json.decodeString? units).map some
  | _ => none

/-- Reads the entries of an object as they are spelled, in order; a key of the document that comes
twice is refused. -/
def readSpelled? (parts : Parts) : List (List Json.StringUnit × Json.Spelled) → Option Parts
  | [] => some parts
  | (key, value) :: rest => do
    let key ← Json.decodeString? key
    if key = "table" then
      if parts.table.isSome then none
      else readSpelled? { parts with table := some (← spelledText? value) } rest
    else if key = "model" then
      if parts.model.isSome then none
      else readSpelled? { parts with model := some (← spelledText? value) } rest
    else if key = "properties" then
      if parts.properties.isSome then none
      else readSpelled? { parts with properties := some (← value.value? declarationDepth) } rest
    else readSpelled? parts rest

/-- The schema document that the text of a file spells. -/
def ofText (path text : String) : Except SchemaDocumentError SchemaDocument :=
  let file? : Option SchemaDocument := do
    match ← Json.Spelled.read? text with
    | .object entries => (← readSpelled? .empty entries).document? path
    | .array [table, model, properties] =>
      return ⟨← spelledText? table, ← spelledText? model,
        ← properties.value? declarationDepth, path⟩
    | _ => none
  match file? with
  | some file => .ok file
  | none => .error (.malformed path)

/-- The schema document in a file of which the bytes are given, or that could not be read. -/
def ofBytes (path : String) (bytes : Option ByteArray) :
    Except SchemaDocumentError SchemaDocument :=
  match bytes.bind String.fromUTF8? with
  | some text => ofText path text
  | none => .error .unreadable

/-! ### What a document describes -/

/-- The name of the table: the one that is given, or else the one that belongs to the model. -/
def tableName (file : SchemaDocument) : Except SchemaDocumentError String :=
  match file.table, file.model with
  | some table, _ => .ok table
  | none, some model => .ok (modelTableName model)
  | none, none => .error (.unnamed file.path)

/-- The declared properties. -/
def propertySet (file : SchemaDocument) : Except SchemaDocumentError PropertySet :=
  match PropertySet.ofJson file.properties with
  | .ok properties => .ok properties
  | .error error => .error (.schema error)

/-- The table as it should be. -/
def tableSchema (file : SchemaDocument) : Except SchemaDocumentError Table := do
  let name ← file.tableName
  let properties ← file.propertySet
  match Table.ofProperties name properties with
  | .ok table => return table
  | .error error => throw (.schema error)

end SchemaDocument

end DocTables
