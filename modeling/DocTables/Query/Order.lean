import DocTables.Json.Basic
import DocTables.Text.AsciiCase

/-!
# Orders

How rows are sorted: a list of terms, each with a column and a direction.
-/

namespace DocTables

/-- The direction of a sort. -/
inductive Direction where
  /-- Smallest first. -/
  | ascending
  /-- Largest first. -/
  | descending
deriving DecidableEq, Repr, Inhabited

namespace Direction

/-- The direction in a statement. -/
def keyword : Direction → String
  | .ascending => "ASC"
  | .descending => "DESC"

/-- The direction that a token names: one of four words in any case, or the integers `1` and
`-1`. -/
def ofToken? : Json → Option Direction
  | .string s =>
    if Text.equalIgnoringAsciiCase s "desc" || Text.equalIgnoringAsciiCase s "descending" then
      some .descending
    else if Text.equalIgnoringAsciiCase s "asc" || Text.equalIgnoringAsciiCase s "ascending" then
      some .ascending
    else none
  | .number n =>
    if n.toInt64? = some (-1) then some .descending
    else if n.toInt64? = some 1 then some .ascending
    else none
  | _ => none

end Direction

/-- One term of an order. -/
structure OrderTerm where
  /-- The column. -/
  column : String
  /-- The direction. -/
  direction : Direction
deriving DecidableEq, Repr, Inhabited

namespace OrderTerm

/-- The term that a column spells, ascending unless a minus sign comes first. -/
def ofSpec (spec : String) : OrderTerm :=
  match spec.toList with
  | '-' :: rest => ⟨String.ofList rest, .descending⟩
  | _ => ⟨spec, .ascending⟩

/-- The term as it is written in a statement. -/
def text (term : OrderTerm) : String := term.column ++ " " ++ term.direction.keyword

end OrderTerm

end DocTables
