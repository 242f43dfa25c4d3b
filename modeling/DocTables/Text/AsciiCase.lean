/-!
# Letter case, ASCII only

SQL keywords, type names and sort directions are compared without regard to the case of the 26
ASCII letters; every other character counts as it is.
-/

namespace DocTables.Text

/-- The text with the ASCII small letters made capital. -/
def asciiUpper (s : String) : String := String.ofList (s.toList.map Char.toUpper)

/-- Whether two texts agree when the case of ASCII letters is ignored. -/
def equalIgnoringAsciiCase (s t : String) : Bool :=
  s.toList.map Char.toLower == t.toList.map Char.toLower

end DocTables.Text
