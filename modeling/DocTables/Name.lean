import DocTables.Name.Keyword

/-!
# Names of tables and columns

Names stand in statements without quotes, so every text that is to be a name is checked first. A
plain name is a letter or an underscore followed by letters, digits and underscores, all ASCII, and
is no keyword; a column may be qualified by the name of its table.
-/

namespace DocTables

/-- Whether a name may begin with the character. -/
def isNameStart (c : Char) : Bool := c.isAlpha || c = '_'

/-- Whether a name may go on with the character. -/
def isNameRest (c : Char) : Bool := c.isAlphanum || c = '_'

/-- Whether the characters are spelled like a name. -/
def isNameSpelling : List Char → Bool
  | [] => false
  | c :: rest => isNameStart c && rest.all isNameRest

/-- Whether a text is a plain name, such as the name of a table. -/
def isPlainName (name : String) : Bool := isNameSpelling name.toList && !isKeyword name

/-- Whether a text names a column, alone or after the name of its table and a dot. -/
def isColumnPath (name : String) : Bool :=
  let cs := name.toList
  let first := cs.takeWhile (· != '.')
  match cs.dropWhile (· != '.') with
  | [] => isPlainName name
  | _ :: second => isPlainName (String.ofList first) && isPlainName (String.ofList second)

end DocTables
