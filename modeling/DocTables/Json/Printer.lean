import DocTables.Decimal.Layout
import DocTables.Json.Basic

/-!
# The compact text of a JSON value

No blanks between tokens; in strings only the quote mark, the backslash and the control characters
below the blank are escaped.
-/

namespace DocTables.Json

/-- How JSON text writes a 64-bit binary number: the shortest digits that read back, positional
while the leading digit has a weight from `10^-5` to `10^15`, a whole number with `.0`. -/
def numberLayout : DecimalLayout := ⟨.even, some (-5, 16), true, true⟩

/-- The text of a number; infinities and no-numbers, which JSON cannot write, are `null`. -/
def Number.text : Number → String
  | .int n => toString n
  | .float x => (numberLayout.text? x).getD "null"

/-- The two hexadecimal digits of a code below 256. -/
def hexByte (n : Nat) : List Char := [Nat.digitChar (n / 16), Nat.digitChar (n % 16)]

/-- A character as it is written inside a string. -/
def escapedChar (c : Char) : List Char :=
  if c = '"' then ['\\', '"']
  else if c = '\\' then ['\\', '\\']
  else if c = '\n' then ['\\', 'n']
  else if c = '\r' then ['\\', 'r']
  else if c = '\t' then ['\\', 't']
  else if c.toNat = 8 then ['\\', 'b']
  else if c.toNat = 12 then ['\\', 'f']
  else if c.toNat < 0x20 then ['\\', 'u', '0', '0'] ++ hexByte c.toNat
  else [c]

/-- A string in quote marks. -/
def stringText (s : String) : String :=
  String.ofList ('"' :: (s.toList.flatMap escapedChar ++ ['"']))

mutual

/-- The compact text of a value. -/
def text : Json → String
  | .null => "null"
  | .bool b => if b then "true" else "false"
  | .number n => n.text
  | .string s => stringText s
  | .array items => "[" ++ ",".intercalate (texts items) ++ "]"
  | .object fields => "\x7b" ++ ",".intercalate (entryTexts fields) ++ "\x7d"

/-- The compact texts of values. -/
def texts : List Json → List String
  | [] => []
  | item :: rest => text item :: texts rest

/-- The compact texts of entries. -/
def entryTexts : List (String × Json) → List String
  | [] => []
  | (key, value) :: rest => (stringText key ++ ":" ++ text value) :: entryTexts rest

end

end DocTables.Json
