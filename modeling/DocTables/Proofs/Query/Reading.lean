import DocTables.Proofs.Query.Token
import DocTables.Query.Condition

/-!
# Reading WHERE clauses

A reader of WHERE clauses that knows nothing of how they were written: it takes comparisons, and
groups of conditions in parentheses that are joined by one keyword.  Parentheses around a single
condition are that condition.  What it gives is a tree of literals, because the text of a number
does not tell of which kind of value it is the text.
-/

namespace DocTables

/-! ## Trees of literals -/

/-- A literal as it stands in a statement. -/
inductive Literal where
  /-- `NULL`. -/
  | null
  /-- A number, by its text. -/
  | number (text : String)
  /-- A text, by its content. -/
  | text (content : String)
deriving DecidableEq, Repr

/-- What a field is compared with. -/
inductive LiteralOperand where
  /-- One literal. -/
  | value (literal : Literal)
  /-- Several literals. -/
  | list (literals : List Literal)
deriving DecidableEq, Repr

/-- A condition on literals. -/
inductive LiteralCondition where
  /-- One comparison. -/
  | comparison (field : String) (comparator : Comparator) (operand : LiteralOperand)
  /-- Several conditions joined by one connective. -/
  | group (connective : Connective) (members : List LiteralCondition)

/-! ## The reader -/

namespace LiteralCondition

/-- The literal that a token is. -/
def literal? : SqlToken → Option Literal
  | .word word => if word = "NULL" then some .null else none
  | .number text => some (.number text)
  | .text content => some (.text content)
  | _ => none

/-- The comparator that a sign stands for. -/
def comparator? (sign : String) : Option Comparator :=
  if sign = "=" then some .eq
  else if sign = "<>" then some .ne
  else if sign = ">" then some .gt
  else if sign = ">=" then some .gte
  else if sign = "<" then some .lt
  else if sign = "<=" then some .lte
  else none

/-- The connective that a keyword stands for. -/
def connective? (word : String) : Option Connective :=
  if word = "AND" then some .and else if word = "OR" then some .or else none

/-- Reads literals with commas between them, up to a closing parenthesis. -/
def readLiterals : List SqlToken → Option (List Literal × List SqlToken)
  | token :: .closing :: rest => (literal? token).map fun last => ([last], rest)
  | token :: .comma :: rest =>
    match literal? token, readLiterals rest with
    | some first, some (others, rest) => some (first :: others, rest)
    | _, _ => none
  | _ => none

/-- Reads a comparison. -/
def readComparison : List SqlToken → Option (LiteralCondition × List SqlToken)
  | .word field :: .word "IS" :: .word "NULL" :: rest =>
    some (.comparison field .eq (.value .null), rest)
  | .word field :: .word "IS" :: .word "NOT" :: .word "NULL" :: rest =>
    some (.comparison field .ne (.value .null), rest)
  | .word field :: .word "IN" :: .opening :: rest =>
    (readLiterals rest).map fun (literals, rest) =>
      (.comparison field .oneOf (.list literals), rest)
  | .word field :: .sign sign :: token :: rest =>
    match comparator? sign, literal? token with
    | some comparator, some literal => some (.comparison field comparator (.value literal), rest)
    | _, _ => none
  | _ => none

mutual

/-- Reads a condition: a comparison, or conditions in parentheses, joined by a keyword if there are
several. The number bounds how many tokens are read. -/
def readCondition : Nat → List SqlToken → Option (LiteralCondition × List SqlToken)
  | 0, _ => none
  | bound + 1, .opening :: rest =>
    match readCondition bound rest with
    | some (first, .closing :: rest) => some (first, rest)
    | some (first, .word word :: rest) =>
      match connective? word with
      | some connective =>
        (readMembers bound connective (.word word :: rest)).map fun (others, rest) =>
          (.group connective (first :: others), rest)
      | none => none
    | _ => none
  | _ + 1, tokens => readComparison tokens

/-- Reads the members of a group after the first one, each with its keyword before it, up to the
closing parenthesis. -/
def readMembers : Nat → Connective → List SqlToken →
    Option (List LiteralCondition × List SqlToken)
  | 0, _, _ => none
  | _ + 1, _, .closing :: rest => some ([], rest)
  | bound + 1, connective, .word word :: rest =>
    if word = connective.keyword then
      match readCondition bound rest with
      | some (member, rest) =>
        (readMembers bound connective rest).map fun (others, rest) => (member :: others, rest)
      | none => none
    else none
  | _ + 1, _, _ => none

end

/-- The condition that a WHERE clause says, if it can be read to its end. -/
def ofClause? (clause : String) : Option LiteralCondition :=
  match sqlTokens? clause with
  | some tokens =>
    match readCondition tokens.length tokens with
    | some (condition, []) => some condition
    | _ => none
  | none => none

end LiteralCondition

end DocTables
