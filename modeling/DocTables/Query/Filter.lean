import DocTables.Query.Condition

/-!
# Filter documents

A filter document is an object whose entries must all hold. The key of an entry is a field, whose
value is what the field equals or an object with one operator; or it is `$and` or `$or`, with a list
of filter documents. `Filter.compile` turns a document into a condition; entries, and the documents
in a list, are read in order, so the first fault is the one that is reported.
-/

namespace DocTables.Filter

/-- How deep `$and` and `$or` may be nested in a filter document. -/
def maxLevels : Nat := 32

/-- Whether a key is meant as an operator. -/
def isOperatorKey (key : String) : Bool := key.toList.head? == some '$'

/-- The comparison that an entry with a field as its key spells. An object with an operator must
hold nothing else; every other value is compared in the form in which it is stored. -/
def fieldComparison (field : String) (value : Json) : Except QueryError Comparison :=
  match value with
  | .object [] => .error (.mismatch field .valueOrOperator)
  | .object entries =>
    if entries.any fun entry => isOperatorKey entry.1 then
      match entries with
      | [(key, operand)] =>
        match Comparator.ofKey? key with
        | none => .error (.invalid (.unknownOperator key))
        | some comparator => do
          let operand ← Operand.ofJson comparator operand
          Comparison.make field comparator operand
      | _ => .error (.invalid (.severalOperators field))
    else Comparison.make field .eq (.value (Scalar.ofJson (.object entries)))
  | value => Comparison.make field .eq (.value (Scalar.ofJson value))

/-- The conditions of a document joined by a connective; a document without entries has none. -/
def joinEntries (connective : Connective) : List Condition → Except QueryError (Option Condition)
  | [] => .ok none
  | conditions => (Condition.joined connective conditions).map some

mutual

/-- The condition of one entry, in a document with `levels` more levels below it. -/
def entryCondition (levels : Nat) (key : String) (value : Json) : Except QueryError Condition :=
  match Connective.ofKey? key with
  | some connective =>
    match value with
    | .array items =>
      if items.isEmpty then .error (.invalid .emptyGroup)
      else do
        let members ← memberConditions levels connective items
        Condition.joined connective members
    | _ => .error (.mismatch connective.key .filterDocuments)
  | none =>
    if (Comparator.ofKey? key).isSome then .error (.invalid (.operatorWithoutField key))
    else if isOperatorKey key then .error (.invalid (.unknownOperator key))
    else (fieldComparison key value).map .comparison

/-- The conditions of the entries of a document. -/
def entryConditions (levels : Nat) : List (String × Json) → Except QueryError (List Condition)
  | [] => .ok []
  | (key, value) :: rest => do
    let condition ← entryCondition levels key value
    let conditions ← entryConditions levels rest
    return condition :: conditions

/-- The condition of one document in the list of a connective. -/
def memberCondition (levels : Nat) (connective : Connective) (member : Json) :
    Except QueryError Condition :=
  match member with
  | .object entries =>
    match levels with
    | 0 => .error (.invalid (.nestedTooDeep maxLevels))
    | levels + 1 => do
      let conditions ← entryConditions levels entries
      match ← joinEntries .and conditions with
      | some condition => return condition
      | none => throw (.invalid (.emptyMember connective.key))
  | _ => .error (.mismatch connective.key .filterDocuments)

/-- The conditions of the documents in the list of a connective. -/
def memberConditions (levels : Nat) (connective : Connective) :
    List Json → Except QueryError (List Condition)
  | [] => .ok []
  | member :: rest => do
    let condition ← memberCondition levels connective member
    let conditions ← memberConditions levels connective rest
    return condition :: conditions

end

/-- The condition of a filter document whose entries are joined by a connective. There is none for
`null` and for the document without entries. -/
def compileJoined (connective : Connective) (filter : Json) :
    Except QueryError (Option Condition) :=
  match filter with
  | .null => .ok none
  | .object entries => do
    let conditions ← entryConditions maxLevels entries
    joinEntries connective conditions
  | _ => .error (.mismatch "filter" .document)

/-- The condition of a filter document. -/
def compile (filter : Json) : Except QueryError (Option Condition) := compileJoined .and filter

end DocTables.Filter
