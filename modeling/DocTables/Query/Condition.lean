import DocTables.Name
import DocTables.Query.Error
import DocTables.Scalar

/-!
# Conditions

A condition is a tree of comparisons joined by AND and OR. Comparisons are built by
`Comparison.make`, which checks the name of the field and that the operand suits the comparator;
groups by `Condition.joined`, which never makes a group of fewer than two members.
-/

namespace DocTables

/-! ### Operators -/

/-- How a field is compared with an operand. -/
inductive Comparator where
  /-- Equality. -/
  | eq
  /-- Inequality. -/
  | ne
  /-- Greater than. -/
  | gt
  /-- Greater than or equal. -/
  | gte
  /-- Less than. -/
  | lt
  /-- Less than or equal. -/
  | lte
  /-- Equality with one of several values. -/
  | oneOf
deriving DecidableEq, Repr, Inhabited

namespace Comparator

/-- Every comparator. -/
def all : List Comparator := [.eq, .ne, .gt, .gte, .lt, .lte, .oneOf]

/-- The key of the comparator in a filter document. -/
def key : Comparator → String
  | .eq => "$eq"
  | .ne => "$ne"
  | .gt => "$gt"
  | .gte => "$gte"
  | .lt => "$lt"
  | .lte => "$lte"
  | .oneOf => "$in"

/-- The comparator in a statement. -/
def symbol : Comparator → String
  | .eq => "="
  | .ne => "<>"
  | .gt => ">"
  | .gte => ">="
  | .lt => "<"
  | .lte => "<="
  | .oneOf => "IN"

/-- The comparator of a key. -/
def ofKey? (key : String) : Option Comparator := all.find? fun comparator => comparator.key == key

end Comparator

/-- How conditions are joined. -/
inductive Connective where
  /-- All must hold. -/
  | and
  /-- One must hold. -/
  | or
deriving DecidableEq, Repr, Inhabited

namespace Connective

/-- The key of the connective in a filter document. -/
def key : Connective → String
  | .and => "$and"
  | .or => "$or"

/-- The connective in a statement. -/
def keyword : Connective → String
  | .and => "AND"
  | .or => "OR"

/-- The connective of a key. -/
def ofKey? (key : String) : Option Connective :=
  if key = "$and" then some .and else if key = "$or" then some .or else none

end Connective

/-! ### Comparisons -/

/-- What a field is compared with. -/
inductive Operand where
  /-- One value. -/
  | value (value : Scalar)
  /-- Several values. -/
  | list (values : List Scalar)
deriving DecidableEq, Repr

namespace Operand

/-- The operand of a comparator in a filter document: a list of scalars for `oneOf`, and a scalar
for every other one. -/
def ofJson (comparator : Comparator) (value : Json) : Except QueryError Operand :=
  match comparator, value with
  | .oneOf, .array items =>
    if items.all Json.isScalar then .ok (.list (items.map Scalar.ofJson))
    else .error (.mismatch comparator.key .scalarList)
  | .oneOf, _ => .error (.mismatch comparator.key .nonEmptyList)
  | _, value =>
    if value.isScalar then .ok (.value (Scalar.ofJson value))
    else .error (.mismatch comparator.key .scalar)

end Operand

/-- One field compared with an operand. -/
structure Comparison where
  /-- The field. -/
  field : String
  /-- The comparator. -/
  comparator : Comparator
  /-- The operand. -/
  operand : Operand
deriving DecidableEq, Repr

namespace Comparison

/-- The comparison of a field with an operand. The name of the field is checked first; then `oneOf`
takes a list that is not empty, and every other comparator one value. -/
def make (field : String) (comparator : Comparator) (operand : Operand) :
    Except QueryError Comparison :=
  if isColumnPath field then
    match comparator, operand with
    | .oneOf, .list [] => .error (.invalid .emptyList)
    | .oneOf, .value _ => .error (.mismatch comparator.key .nonEmptyList)
    | .oneOf, .list values => .ok ⟨field, .oneOf, .list values⟩
    | comparator, .value value => .ok ⟨field, comparator, .value value⟩
    | comparator, .list _ => .error (.mismatch comparator.key .scalar)
  else .error (.invalid (.invalidField field))

/-- The comparison as it is written in a statement. Equality with `NULL` is a test of its own. -/
def text (comparison : Comparison) : String :=
  match comparison.comparator, comparison.operand with
  | .eq, .value .null => comparison.field ++ " IS NULL"
  | .ne, .value .null => comparison.field ++ " IS NOT NULL"
  | comparator, .value value =>
    comparison.field ++ " " ++ comparator.symbol ++ " " ++ value.literal
  | comparator, .list values =>
    comparison.field ++ " " ++ comparator.symbol ++ " (" ++
      ",".intercalate (values.map Scalar.literal) ++ ")"

end Comparison

/-! ### Trees -/

/-- A condition on the rows of a table. -/
inductive Condition where
  /-- One comparison. -/
  | comparison (c : Comparison)
  /-- Several conditions joined by one connective. -/
  | group (connective : Connective) (members : List Condition)
deriving Inhabited

namespace Condition

/-- A group of conditions; it must have a member. -/
def groupOf (connective : Connective) : List Condition → Except QueryError Condition
  | [] => .error (.invalid .emptyGroup)
  | members => .ok (.group connective members)

/-- Conditions joined by a connective: a single condition stands for itself. -/
def joined (connective : Connective) : List Condition → Except QueryError Condition
  | [only] => .ok only
  | members => groupOf connective members

/-- The conditions that an AND group joins; any other condition is alone. -/
def conjuncts : Condition → List Condition
  | .group .and members => members
  | condition => [condition]

/-- Two conditions of which both must hold, as one flat AND group. -/
def and (first second : Condition) : Condition :=
  .group .and (first.conjuncts ++ second.conjuncts)

mutual

/-- The condition as it is written in a statement; groups stand in parentheses. -/
def text : Condition → String
  | .comparison c => c.text
  | .group connective members =>
    "(" ++ (" " ++ connective.keyword ++ " ").intercalate (texts members) ++ ")"

/-- The texts of conditions. -/
def texts : List Condition → List String
  | [] => []
  | member :: rest => text member :: texts rest

end

/-- The condition as it is written after `WHERE`, always in parentheses. -/
def clause : Condition → String
  | .comparison c => "(" ++ c.text ++ ")"
  | condition => condition.text

end Condition

end DocTables
