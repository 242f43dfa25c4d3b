import DocTables.Schema.PropertyType
import Mathlib.Tactic.Lemma

/-!
# Reading definitions of tables

A reader of statements that create tables or add columns to them, which knows nothing of how they
were written.  It reads the text into words, quoted texts and punctuation, and these into the
columns of the table: each has a name and a type, and after them clauses in any order, up to a
comma, the closing parenthesis or the end.  Whatever stands in a quoted text is part of that text; a
quote mark in it is written twice.

A default is read as the content of its quoted text, or as the word that stands there: the word does
not tell of which kind of value it is the text.
-/

namespace DocTables

/-! ## What a definition says -/

/-- A default, as it stands in a definition. -/
inductive DefaultLiteral where
  /-- A quoted text, by its content. -/
  | text (content : String)
  /-- A number or `NULL`, by its text. -/
  | word (word : String)
deriving DecidableEq, Repr

/-- What the definition of a column says. -/
structure DefinedColumn where
  /-- The name. -/
  name : String
  /-- The type. -/
  type : ColumnType
  /-- Whether no value may occur twice. -/
  unique : Bool := false
  /-- Whether the column is the primary key. -/
  primaryKey : Bool := false
  /-- Whether `NULL` is excluded. -/
  notNull : Bool := false
  /-- The default; a default of `NULL` is not the same as no default. -/
  default : Option DefaultLiteral := none
deriving DecidableEq, Repr

/-- What a statement that creates a table says. -/
structure DefinedTable where
  /-- The name. -/
  name : String
  /-- The columns in order. -/
  columns : List DefinedColumn
deriving DecidableEq, Repr

/-! ## Tokens -/

/-- A token of a definition. -/
inductive DefinitionToken where
  /-- A name, a keyword or a number. -/
  | word (text : String)
  /-- A text between double quote marks, by its content. -/
  | text (content : String)
  /-- An opening parenthesis. -/
  | opening
  /-- A closing parenthesis. -/
  | closing
  /-- A comma. -/
  | comma
deriving DecidableEq, Repr

namespace DefinitionToken

/-- What a character between words stands for: nothing, or a token of its own. -/
def delimiter? (c : Char) : Option (List DefinitionToken) :=
  if c = ' ' then some []
  else if c = ',' then some [.comma]
  else if c = '(' then some [.opening]
  else if c = ')' then some [.closing]
  else none

/-- What is being read. -/
inductive Reading where
  /-- A word, of which this has been seen; nothing, if that is empty. -/
  | bare (seen : List Char)
  /-- A quoted text, of which this has been seen. -/
  | quoted (seen : List Char)

/-- The word that has been read, unless nothing has. -/
def ended (seen : List Char) : List DefinitionToken :=
  if seen.isEmpty then [] else [.word (String.ofList seen)]

/-- Reads characters up to the end. A quoted text must end. -/
def scan : Reading → List Char → Option (List DefinitionToken)
  | .bare seen, [] => some (ended seen)
  | .bare seen, c :: rest =>
    match delimiter? c with
    | some tokens => (scan (.bare []) rest).map (ended seen ++ tokens ++ ·)
    | none =>
      if c = '"' then (scan (.quoted []) rest).map (ended seen ++ ·)
      else scan (.bare (seen ++ [c])) rest
  | .quoted seen, '"' :: '"' :: rest => scan (.quoted (seen ++ ['"'])) rest
  | .quoted seen, '"' :: rest => (scan (.bare []) rest).map (.text (String.ofList seen) :: ·)
  | .quoted seen, c :: rest => scan (.quoted (seen ++ [c])) rest
  | .quoted _, [] => none

end DefinitionToken

/-- The tokens of a definition, if it can be read. -/
def definitionTokens? (text : String) : Option (List DefinitionToken) :=
  DefinitionToken.scan (.bare []) text.toList

/-! ## The reader -/

namespace DefinedTable

/-- The type of columns that a word names. -/
def columnType? : String → Option ColumnType
  | "TEXT" => some .text
  | "REAL" => some .real
  | "INTEGER" => some .integer
  | "DATETIME" => some .dateTime
  | _ => none

/-- Reads the clauses after the type of a column, in whatever order they come. -/
def readClauses (column : DefinedColumn) :
    List DefinitionToken → DefinedColumn × List DefinitionToken
  | .word "UNIQUE" :: rest => readClauses { column with unique := true } rest
  | .word "PRIMARY" :: .word "KEY" :: rest => readClauses { column with primaryKey := true } rest
  | .word "NOT" :: .word "NULL" :: rest => readClauses { column with notNull := true } rest
  | .word "DEFAULT" :: .word word :: rest =>
    readClauses { column with default := some (.word word) } rest
  | .word "DEFAULT" :: .text content :: rest =>
    readClauses { column with default := some (.text content) } rest
  | rest => (column, rest)

/-- Reads columns with commas between them, up to the closing parenthesis at the end. The number
bounds how many columns are read. -/
def readColumns : Nat → List DefinitionToken → Option (List DefinedColumn)
  | bound + 1, .word name :: .word type :: rest => do
    let type ← columnType? type
    match readClauses { name := name, type := type } rest with
    | (column, [.closing]) => some [column]
    | (column, .comma :: rest) => (readColumns bound rest).map (column :: ·)
    | _ => none
  | _, _ => none

/-- Reads what stands in the parentheses of a table, which may be nothing. -/
def readTable : List DefinitionToken → Option (List DefinedColumn)
  | [.closing] => some []
  | tokens => readColumns tokens.length tokens

/-- What tokens say as a statement that creates a table. -/
def ofTokens? : List DefinitionToken → Option DefinedTable
  | .word "CREATE" :: .word "TABLE" :: .word name :: .opening :: rest =>
    (readTable rest).map fun columns => ⟨name, columns⟩
  | _ => none

/-- What a text says as a statement that creates a table. -/
def ofText? (text : String) : Option DefinedTable := (definitionTokens? text).bind ofTokens?

example : ofText? "CREATE TABLE t (a TEXT DEFAULT \", b (\"\"x\" UNIQUE, b REAL DEFAULT NULL)" =
    some ⟨"t", [
      { name := "a", type := .text, unique := true, default := some (.text ", b (\"x") },
      { name := "b", type := .real, default := some (.word "NULL") }]⟩ := by decide +kernel

/-- What a text says as a statement that adds a column to a table: the name of the table, and the
column. -/
def ofAddition? (text : String) : Option (String × DefinedColumn) :=
  match definitionTokens? text with
  | some (.word "ALTER" :: .word "TABLE" :: .word table :: .word "ADD" :: .word "COLUMN" ::
      .word name :: .word type :: rest) => do
    let type ← columnType? type
    match readClauses { name := name, type := type } rest with
    | (column, []) => some (table, column)
    | _ => none
  | _ => none

end DefinedTable

end DocTables
