import DocTables.Proofs.Decimal.NumberText
import DocTables.Proofs.Query.Pieces
import DocTables.Query.Order
import DocTables.Query.Verb

/-!
# Reading statements

A reader of statements that knows nothing of how they were written.  It cuts a statement into its
pieces and takes these in their order: the verb, the table and what the verb is about, and then the
clauses that come after it, each of which may be missing.  A piece is taken as it stands, so a
literal or a condition is read as its text.

The reader takes more than is ever written, for instance an order after any verb: what a statement
does not say is not read into it, whatever the verb.
-/

namespace DocTables

/-- What a statement says. -/
structure StatementParts where
  /-- What the statement does. -/
  verb : Verb
  /-- The table. -/
  table : String
  /-- The columns that are read, all of them if none is named; or those that are inserted. -/
  columns : List String := []
  /-- The literals of the rows that are inserted. A row of defaults has none. -/
  rows : List (List String) := []
  /-- The columns that are set, each with its literal. -/
  assignments : List (String × String) := []
  /-- The condition. -/
  condition : Option String := none
  /-- The order. -/
  order : List OrderTerm := []
  /-- The largest number of rows. -/
  limit : Option Int := none
  /-- The number of rows to skip. -/
  offset : Option Int := none
deriving DecidableEq, Repr

/-! ## Numbers -/

/-- The natural number that digits spell. -/
def natural? (digits : List Char) : Option Nat :=
  if digits ≠ [] ∧ digits.all Char.isDigit then some (Nat.ofDigitChars 10 digits 0) else none

/-- The integer that a text spells. -/
def integer? (text : String) : Option Int :=
  match text.toList with
  | '-' :: digits => (natural? digits).map fun n => -n
  | digits => (natural? digits).map fun n => n

/-- The digits of a natural number spell it. -/
lemma natural?_toDigits (n : Nat) : natural? (Nat.toDigits 10 n) = some n := by
  have hdigits : (Nat.toDigits 10 n).all Char.isDigit = true := by
    rw [List.all_eq_true]
    exact fun c hc => Nat.isDigit_of_mem_toDigits (by omega) (by omega) hc
  rw [natural?, if_pos ⟨Nat.toDigits_ne_nil, hdigits⟩, Nat.ofDigitChars_ten_toDigits]

/-- The text of an integer spells it. -/
lemma integer?_toString (n : Int) : integer? (toString n) = some n := by
  cases n with
  | ofNat m =>
    have hsign : ∀ digits, Nat.toDigits 10 m ≠ '-' :: digits := by
      intro digits hdigits
      have hmem : '-' ∈ Nat.toDigits 10 m := by
        rw [hdigits]
        exact List.mem_cons_self
      have hdigit : '-'.isDigit = true := Nat.isDigit_of_mem_toDigits (by omega) (by omega) hmem
      cases hdigit
    rw [integer?, toList_toString_ofNat]
    split
    · rename_i digits hdigits
      exact absurd hdigits (hsign digits)
    · rw [natural?_toDigits]
      rfl
  | negSucc m =>
    simp only [integer?, toList_toString_negSucc, natural?_toDigits]
    rfl

namespace StatementParts

/-! ## Lists -/

/-- Reads items with commas between them. The number bounds how many items are read. -/
def readList {α : Type} (item : List String → Option (α × List String)) :
    Nat → List String → Option (List α × List String)
  | 0, _ => none
  | bound + 1, list =>
    match item list with
    | some (first, "," :: rest) =>
      (readList item bound rest).map fun (others, rest) => (first :: others, rest)
    | some (last, rest) => some ([last], rest)
    | none => none

/-- Reads one piece. -/
def readPiece : List String → Option (String × List String)
  | piece :: rest => some (piece, rest)
  | [] => none

/-- Reads a term of an order. -/
def readTerm : List String → Option (OrderTerm × List String)
  | column :: "ASC" :: rest => some (⟨column, .ascending⟩, rest)
  | column :: "DESC" :: rest => some (⟨column, .descending⟩, rest)
  | _ => none

/-- Reads an assignment. -/
def readAssignment : List String → Option ((String × String) × List String)
  | column :: "=" :: literal :: rest => some ((column, literal), rest)
  | _ => none

/-- The pieces between the parentheses of a text. -/
def tuple? (text : String) : Option (List String) :=
  match text.toList with
  | '(' :: rest =>
    if rest.getLast? = some ')' then
      let inner := pieces (String.ofList rest.dropLast)
      match readList readPiece inner.length inner with
      | some (items, []) => some items
      | _ => none
    else none
  | _ => none

/-- Reads a row. -/
def readRow : List String → Option (List String × List String)
  | piece :: rest => (tuple? piece).map fun items => (items, rest)
  | [] => none

/-! ## Clauses -/

/-- Reads the condition, if there is one. -/
def readCondition : List String → Option String × List String
  | "WHERE" :: condition :: rest => (some condition, rest)
  | rest => (none, rest)

/-- Reads the order, if there is one. -/
def readOrder : List String → Option (List OrderTerm × List String)
  | "ORDER" :: "BY" :: rest => readList readTerm rest.length rest
  | rest => some ([], rest)

/-- Reads the number after a word, if the word is there. -/
def readNumber (word : String) : List String → Option (Option Int × List String)
  | first :: rest =>
    if first = word then
      match rest with
      | number :: rest => (integer? number).map fun n => (some n, rest)
      | [] => none
    else some (none, first :: rest)
  | [] => some (none, [])

/-- Reads the clauses that may come last, to the end of the statement. -/
def withClauses (parts : StatementParts) (list : List String) : Option StatementParts := do
  let (condition, rest) := readCondition list
  let (order, rest) ← readOrder rest
  let (limit, rest) ← readNumber "LIMIT" rest
  let (offset, rest) ← readNumber "OFFSET" rest
  if rest.isEmpty then
    some { parts with condition := condition, order := order, limit := limit, offset := offset }
  else none

/-- Reads a table and the clauses after it. -/
def withTable (parts : StatementParts) : List String → Option StatementParts
  | "FROM" :: table :: rest => withClauses { parts with table := table } rest
  | _ => none

/-- Reads the columns of a read, and what comes after them. -/
def readColumns (verb : Verb) : List String → Option StatementParts
  | "*" :: rest => withTable { verb := verb, table := "" } rest
  | list =>
    match readList readPiece list.length list with
    | some (columns, rest) => withTable { verb := verb, table := "", columns := columns } rest
    | none => none

/-- What pieces say as a statement. -/
def ofPieces? : List String → Option StatementParts
  | "SELECT" :: "COUNT(*)" :: "AS" :: "count" :: rest =>
    withTable { verb := .count, table := "" } rest
  | "SELECT" :: "DISTINCT" :: rest => readColumns .distinct rest
  | "SELECT" :: rest => readColumns .select rest
  | "INSERT" :: "INTO" :: table :: "DEFAULT" :: "VALUES" :: rest =>
    withClauses { verb := .insert, table := table, rows := [[]] } rest
  | "INSERT" :: "INTO" :: table :: columns :: "VALUES" :: rest =>
    match tuple? columns, readList readRow rest.length rest with
    | some columns, some (rows, rest) =>
      withClauses { verb := .insert, table := table, columns := columns, rows := rows } rest
    | _, _ => none
  | "UPDATE" :: table :: "SET" :: rest =>
    match readList readAssignment rest.length rest with
    | some (assignments, rest) =>
      withClauses { verb := .update, table := table, assignments := assignments } rest
    | none => none
  | "DELETE" :: rest => withTable { verb := .delete, table := "" } rest
  | _ => none

/-- What a text says as a statement. -/
def ofText? (text : String) : Option StatementParts := ofPieces? (pieces text)

example : ofText? "SELECT a FROM t WHERE (b = \x27 LIMIT 1, (\x27) ORDER BY a DESC LIMIT -2" =
    some {
      verb := .select
      table := "t"
      columns := ["a"]
      condition := some "(b = \x27 LIMIT 1, (\x27)"
      order := [⟨"a", .descending⟩]
      limit := some (-2) } := by decide +kernel

end StatementParts

end DocTables
