/-!
# Quoted text

A text stands between two quote marks, and a quote mark inside it is written twice.
-/

namespace DocTables.Text

/-- Writes every quote mark twice. -/
def doubled (quote : Char) : List Char → List Char
  | [] => []
  | c :: rest => if c = quote then quote :: quote :: doubled quote rest else c :: doubled quote rest

/-- A text between quote marks. -/
def quoted (quote : Char) (s : String) : String :=
  String.ofList (quote :: (doubled quote s.toList ++ [quote]))

end DocTables.Text
