import DocTables.Json.Printer
import DocTables.Text.Shown

/-!
# JSON values shown in messages

A value that is shown in a message, unlike one that is written as JSON, is marked with its kind, and
its strings and keys are escaped as other texts in messages are.
-/

namespace DocTables.Json

mutual

/-- A value as it is shown. -/
def shown : Json → String
  | .null => "Null"
  | .bool b => "Bool(" ++ toString b ++ ")"
  | .number n => "Number(" ++ n.text ++ ")"
  | .string s => "String(" ++ Text.shown s ++ ")"
  | .array items => "Array [" ++ ", ".intercalate (shownItems items) ++ "]"
  | .object fields => "Object \x7b" ++ ", ".intercalate (shownEntries fields) ++ "\x7d"

/-- Values as they are shown. -/
def shownItems : List Json → List String
  | [] => []
  | item :: rest => shown item :: shownItems rest

/-- Entries as they are shown. -/
def shownEntries : List (String × Json) → List String
  | [] => []
  | (key, value) :: rest => (Text.shown key ++ ": " ++ shown value) :: shownEntries rest

end

/-- The entries of an object as they are shown, without the mark of an object. -/
def Fields.shown (fields : Fields) : String :=
  "\x7b" ++ ", ".intercalate (shownEntries fields) ++ "\x7d"

end DocTables.Json
