import DocTables.Text.Ranges
import DocTables.Text.Shown.Table

/-!
# Text shown in messages

A text in double quotes, with a backslash before quotes and backslashes, short escapes for the usual
control characters, and the code of every other character that a reader would not see.
-/

namespace DocTables.Text

/-- A character as it is shown. -/
def shownChar (c : Char) : List Char :=
  if c = '"' then ['\\', '"']
  else if c = '\\' then ['\\', '\\']
  else if c = '\n' then ['\\', 'n']
  else if c = '\r' then ['\\', 'r']
  else if c = '\t' then ['\\', 't']
  else if c.toNat = 0 then ['\\', '0']
  else if inRanges unseenRanges c.toNat then
    ['\\', 'u', '\x7b'] ++ Nat.toDigits 16 c.toNat ++ ['\x7d']
  else [c]

/-- A text as it is shown. -/
def shown (s : String) : String := String.ofList ('"' :: (s.toList.flatMap shownChar ++ ['"']))

end DocTables.Text
