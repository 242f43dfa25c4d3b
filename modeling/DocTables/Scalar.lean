import DocTables.Json.Printer
import DocTables.Text.Quoted

/-!
# Scalar values and their literals

What a column can hold, how a document's value becomes such a scalar, and how a scalar is written
into a statement. Statements carry their values inline, so every text goes through `Text.quoted`.
-/

namespace DocTables

/-- A value of a column. -/
inductive Scalar where
  /-- No value. -/
  | null
  /-- A truth value, stored as `1` or `0`. -/
  | bool (b : Bool)
  /-- An integer. -/
  | int (n : Int)
  /-- A 64-bit binary number. -/
  | float (x : Binary64)
  /-- A text. -/
  | text (s : String)
deriving DecidableEq, Repr, Inhabited

namespace Scalar

/-- How a statement writes a 64-bit binary number: the shortest digits that read back, without an
exponent, and without a point where the number is whole. -/
def numberLayout : DecimalLayout := ⟨.up, none, false, false⟩

/-- The scalar as it is written in a statement. A number that is not finite is written as `NULL`. -/
def literal : Scalar → String
  | .null => "NULL"
  | .bool b => if b then "1" else "0"
  | .int n => toString n
  | .float x => (numberLayout.text? x).getD "NULL"
  | .text s => Text.quoted '\x27' s

/-- The scalar as it is written after `DEFAULT` in the definition of a column, where a text stands
in double quotes. -/
def defaultLiteral : Scalar → String
  | .text s => Text.quoted '"' s
  | value => value.literal

/-- Whether the scalar is `NULL`. -/
def isNull : Scalar → Bool
  | .null => true
  | _ => false

/-- Whether the scalar is a text. -/
def isText : Scalar → Bool
  | .text _ => true
  | _ => false

/-- The scalar that stores a document's value: a list or an object is stored as its JSON text, and
an integer that does not fit into 64 signed bits as the nearest binary number. -/
def ofJson : Json → Scalar
  | .null => .null
  | .bool b => .bool b
  | .number n => match n.toInt64? with
    | some i => .int i
    | none => .float n.toBinary64
  | .string s => .text s
  | .array items => .text (Json.array items).text
  | .object fields => .text (Json.object fields).text

end Scalar

end DocTables
