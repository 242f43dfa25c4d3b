import DocTables.Proofs.Query.Compilation

/-!
# What filter documents mean

A comparison in a storage is true, false, or, where `NULL` takes part, neither; the connectives are
those of Kleene's three-valued logic.  `Filter.meaning` reads a filter document as such a truth
value directly, without a condition in between, for any valuation of the comparisons in it.  The
condition that a document is compiled to has the same value (`Filter.eval_compileJoined`): no entry
is lost, no connective is taken for the other one, and a single member of a group stands for itself.
-/

namespace DocTables

/-! ## Three truth values -/

/-- The truth values of comparisons. -/
inductive Truth where
  /-- It holds. -/
  | yes
  /-- It does not hold. -/
  | no
  /-- It is not known whether it holds. -/
  | unknown
deriving DecidableEq, Repr

namespace Truth

/-- Whether both hold. -/
def and : Truth → Truth → Truth
  | .no, _ => .no
  | _, .no => .no
  | .yes, .yes => .yes
  | _, _ => .unknown

/-- Whether one of two holds. -/
def or : Truth → Truth → Truth
  | .yes, _ => .yes
  | _, .yes => .yes
  | .no, .no => .no
  | _, _ => .unknown

/-- What holds anyway adds nothing to a conjunction. -/
@[simp] lemma and_yes (truth : Truth) : truth.and .yes = truth := by cases truth <;> rfl

/-- What does not hold anyway adds nothing to a disjunction. -/
@[simp] lemma or_no (truth : Truth) : truth.or .no = truth := by cases truth <;> rfl

end Truth

/-- The conjunction or the disjunction of truth values. -/
def Connective.join : Connective → List Truth → Truth
  | .and => List.foldr Truth.and .yes
  | .or => List.foldr Truth.or .no

/-- A single truth value is not changed by joining. -/
lemma Connective.join_singleton (connective : Connective) (truth : Truth) :
    connective.join [truth] = truth := by
  cases connective with
  | and => exact truth.and_yes
  | or => exact truth.or_no

/-- The truth of every comparison of a field with an operand. -/
abbrev Valuation := String → Comparator → Operand → Truth

/-! ## Conditions -/

namespace Condition

mutual

/-- The truth of a condition. -/
def eval (valuation : Valuation) : Condition → Truth
  | .comparison c => valuation c.field c.comparator c.operand
  | .group connective members => connective.join (evals valuation members)

/-- The truth of conditions. -/
def evals (valuation : Valuation) : List Condition → List Truth
  | [] => []
  | member :: rest => eval valuation member :: evals valuation rest

end

variable {valuation : Valuation} {connective : Connective} {condition : Condition}
  {conditions : List Condition}

/-- Conditions joined by a connective have the truth of its members, joined. -/
lemma eval_joined (h : joined connective conditions = .ok condition) :
    condition.eval valuation = connective.join (evals valuation conditions) := by
  match conditions, h with
  | [only], h =>
    cases h
    rw [evals, evals, Connective.join_singleton]
  | first :: second :: rest, h =>
    cases h
    rw [eval]

end Condition

/-! ## Documents -/

namespace Filter

/-- The comparator that a key in an object with an operator stands for. -/
def comparatorOf? : String → Option Comparator
  | "$eq" => some .eq
  | "$ne" => some .ne
  | "$gt" => some .gt
  | "$gte" => some .gte
  | "$lt" => some .lt
  | "$lte" => some .lte
  | "$in" => some .oneOf
  | _ => none

/-- What a field is compared with, under a comparator. -/
def operandOf : Comparator → Json → Operand
  | .oneOf, .array items => .list (items.map Scalar.ofJson)
  | _, value => .value (Scalar.ofJson value)

/-- What an entry with a field as its key means: the comparison by its operator, or else equality
with the stored form of its value. -/
def fieldMeaning (valuation : Valuation) (field : String) (value : Json) : Truth :=
  match value with
  | .object [(key, operand)] =>
    match comparatorOf? key with
    | some comparator => valuation field comparator (operandOf comparator operand)
    | none => valuation field .eq (.value (Scalar.ofJson value))
  | _ => valuation field .eq (.value (Scalar.ofJson value))

mutual

/-- What an entry of a document means. -/
def entryMeaning (valuation : Valuation) (key : String) (value : Json) : Truth :=
  match key, value with
  | "$and", .array items => Connective.and.join (memberMeanings valuation items)
  | "$or", .array items => Connective.or.join (memberMeanings valuation items)
  | field, value => fieldMeaning valuation field value

/-- What the entries of a document mean. -/
def entryMeanings (valuation : Valuation) : List (String × Json) → List Truth
  | [] => []
  | (key, value) :: rest => entryMeaning valuation key value :: entryMeanings valuation rest

/-- What a document in the list of a connective means: all its entries hold. -/
def memberMeaning (valuation : Valuation) : Json → Truth
  | .object entries => Connective.and.join (entryMeanings valuation entries)
  | _ => .unknown

/-- What the documents in the list of a connective mean. -/
def memberMeanings (valuation : Valuation) : List Json → List Truth
  | [] => []
  | member :: rest => memberMeaning valuation member :: memberMeanings valuation rest

end

/-- What a filter document means whose entries are joined by a connective. -/
def meaning (valuation : Valuation) (connective : Connective) : Json → Truth
  | .object entries => connective.join (entryMeanings valuation entries)
  | _ => .unknown

/-! ## The condition of a document -/

/-- The key of a comparator is found by comparing with every key. -/
lemma ofKey?_eq_comparatorOf? (key : String) : Comparator.ofKey? key = comparatorOf? key := by
  unfold comparatorOf?
  split
  case h_8 =>
    refine List.find?_eq_none.mpr fun comparator _ => ?_
    rw [beq_iff_eq]
    rintro rfl
    cases comparator <;> simp_all [Comparator.key]
  all_goals rfl

variable {valuation : Valuation} {connective : Connective} {key field : String} {value : Json}

/-- The operand of a comparator is read as it stands in the document. -/
lemma eq_of_ofJson {comparator : Comparator} {operand : Operand}
    (h : Operand.ofJson comparator value = .ok operand) : operand = operandOf comparator value := by
  unfold Operand.ofJson at h
  split at h
  · split at h <;> cases h
    rfl
  · cases h
  · split at h <;> cases h
    unfold operandOf
    split <;> simp_all

/-- The keys of comparators are operators. -/
lemma isOperatorKey_of_comparatorOf? {comparator : Comparator}
    (h : comparatorOf? key = some comparator) : isOperatorKey key = true := by
  unfold comparatorOf? at h
  split at h
  case h_8 => cases h
  all_goals decide

/-- An object without an operator means equality with its stored form. -/
lemma fieldMeaning_of_no_operator {entries : List (String × Json)}
    (h : ¬ (entries.any fun entry => isOperatorKey entry.1) = true) :
    fieldMeaning valuation field (.object entries) =
      valuation field .eq (.value (Scalar.ofJson (.object entries))) := by
  unfold fieldMeaning
  split
  · rename_i key operand heq
    obtain rfl := Json.object.inj heq
    cases hcomparator : comparatorOf? key with
    | none => rfl
    | some comparator =>
      have hoperator := isOperatorKey_of_comparatorOf? hcomparator
      rw [List.any_cons, hoperator, Bool.true_or] at h
      exact absurd rfl h
  · rfl

/-- The comparison of an entry with a field as its key has the entry's meaning. -/
lemma eval_fieldComparison {comparison : Comparison}
    (h : fieldComparison field value = .ok comparison) :
    valuation comparison.field comparison.comparator comparison.operand =
      fieldMeaning valuation field value := by
  rcases exists_of_fieldComparison h with
    ⟨key, operand, comparator, read, rfl, hcomparator, hread, hmake⟩ | ⟨hoperator, hmake⟩
  · rw [ofKey?_eq_comparatorOf?] at hcomparator
    rw [(eq_of_make hmake).1, fieldMeaning, hcomparator, eq_of_ofJson hread]
  · rw [(eq_of_make hmake).1]
    cases value with
    | object entries => rw [fieldMeaning_of_no_operator (hoperator entries rfl)]
    | _ => rfl

/-- A connective's key stands for the joined documents in its list. -/
lemma entryMeaning_of_connective (h : Connective.ofKey? key = some connective) (items : List Json) :
    entryMeaning valuation key (.array items) =
      connective.join (memberMeanings valuation items) := by
  unfold Connective.ofKey? at h
  split at h
  · rename_i hkey
    cases h
    rw [hkey, entryMeaning]
  · split at h
    · rename_i hkey
      cases h
      rw [hkey, entryMeaning]
    · cases h

/-- Any other key is a field. -/
lemma entryMeaning_of_field (h : Connective.ofKey? key = none) :
    entryMeaning valuation key value = fieldMeaning valuation key value := by
  unfold entryMeaning
  split
  · cases h
  · cases h
  · rfl

mutual

/-- The condition of an entry has the entry's meaning. -/
lemma eval_entryCondition (valuation : Valuation) {levels : Nat} {key : String} {value : Json}
    {condition : Condition} (h : entryCondition levels key value = .ok condition) :
    condition.eval valuation = entryMeaning valuation key value := by
  rcases exists_of_entryCondition h with
    ⟨connective, items, members, hconnective, rfl, hmembers, hjoined⟩ |
      ⟨hconnective, comparison, hcomparison, rfl⟩
  · rw [Condition.eval_joined hjoined, entryMeaning_of_connective hconnective,
      evals_memberConditions valuation hmembers]
  · rw [Condition.eval, entryMeaning_of_field hconnective]
    exact eval_fieldComparison hcomparison

/-- The conditions of entries have the meanings of the entries. -/
lemma evals_entryConditions (valuation : Valuation) {levels : Nat}
    {entries : List (String × Json)} {conditions : List Condition}
    (h : entryConditions levels entries = .ok conditions) :
    Condition.evals valuation conditions = entryMeanings valuation entries := by
  match entries, h with
  | [], h =>
    cases h
    rfl
  | (key, value) :: rest, h =>
    obtain ⟨first, others, hfirst, hothers, rfl⟩ := exists_of_entryConditions h
    rw [Condition.evals, entryMeanings, eval_entryCondition valuation hfirst,
      evals_entryConditions valuation hothers]

/-- The condition of a member has the member's meaning. -/
lemma eval_memberCondition (valuation : Valuation) {levels : Nat} {connective : Connective}
    {member : Json} {condition : Condition}
    (h : memberCondition levels connective member = .ok condition) :
    condition.eval valuation = memberMeaning valuation member := by
  obtain ⟨entries, below, conditions, rfl, rfl, hconditions, hjoined⟩ := exists_of_memberCondition h
  rw [Condition.eval_joined hjoined, memberMeaning, evals_entryConditions valuation hconditions]

/-- The conditions of members have the meanings of the members. -/
lemma evals_memberConditions (valuation : Valuation) {levels : Nat} {connective : Connective}
    {members : List Json} {conditions : List Condition}
    (h : memberConditions levels connective members = .ok conditions) :
    Condition.evals valuation conditions = memberMeanings valuation members := by
  match members, h with
  | [], h =>
    cases h
    rfl
  | member :: rest, h =>
    obtain ⟨first, others, hfirst, hothers, rfl⟩ := exists_of_memberConditions h
    rw [Condition.evals, memberMeanings, eval_memberCondition valuation hfirst,
      evals_memberConditions valuation hothers]

end

/-- A document with an alternative of two members and an entry beside it. -/
def adultsOrUnnamed : Json :=
  .object [
    ("$or", .array [.object [("age", .object [("$gt", .number (.int 20))]), ("alive", .bool true)],
      .object [("age", .null)]]),
    ("name", .string "")]

/-- The condition that a filter document is compiled to has the meaning of the document, under every
valuation of the comparisons; and only `null` and the document without entries have no condition. -/
theorem eval_compileJoined (connective : Connective) (filter : Json) :
    (∀ condition, compileJoined connective filter = .ok (some condition) →
      ∀ valuation, condition.eval valuation = meaning valuation connective filter) ∧
    (compileJoined connective filter = .ok none → filter = .null ∨ filter = .object []) := by
  constructor
  · intro condition h valuation
    obtain ⟨entries, conditions, rfl, hconditions, hjoined⟩ := exists_of_compileJoined_some h
    rw [Condition.eval_joined hjoined, meaning, evals_entryConditions valuation hconditions]
  · exact eq_of_compileJoined_none

/-- Joined by OR, the document means what is written out here, and it is compiled. -/
theorem eval_adultsOrUnnamed :
    ∃ condition, compileJoined .or adultsOrUnnamed = .ok (some condition) ∧
      ∀ valuation : Valuation, condition.eval valuation =
        (((valuation "age" .gt (.value (.int 20))).and
            ((valuation "alive" .eq (.value (.bool true))).and .yes)).or
          (((valuation "age" .eq (.value .null)).and .yes).or .no)).or
        ((valuation "name" .eq (.value (.text ""))).or .no) := by
  have hcompiled : (compileJoined .or adultsOrUnnamed).toOption.join.isSome = true := by
    decide +kernel
  obtain ⟨condition, hcondition⟩ := Option.isSome_iff_exists.mp hcompiled
  have hresult := eq_ok_of_toOption_join hcondition
  exact ⟨condition, hresult, fun valuation =>
    (eval_compileJoined .or adultsOrUnnamed).1 condition hresult valuation⟩

end Filter

end DocTables
