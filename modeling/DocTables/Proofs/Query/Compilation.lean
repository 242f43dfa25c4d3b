import DocTables.Proofs.Result
import DocTables.Query.Filter

/-!
# How filter documents are compiled

What is known of a part of a filter document, and of its own parts, once it was compiled without an
error: one lemma for each function of the compiler.  Whatever is proved of compiled conditions is
proved from these, by recursion on the document.
-/

namespace DocTables

/-- Equality with one of several values takes a list that is not empty, every other comparator takes
one value. -/
def Comparator.Takes (comparator : Comparator) (operand : Operand) : Prop :=
  (comparator = .oneOf ∧ ∃ first rest, operand = .list (first :: rest)) ∨
    (comparator ≠ .oneOf ∧ ∃ scalar, operand = .value scalar)

namespace Filter

variable {connective : Connective} {key field : String} {value : Json} {levels : Nat}
  {condition : Condition} {conditions : List Condition}

/-! ## Comparisons -/

/-- A comparison is made of what it was asked to be made of, if its field is a column path and its
operand suits its comparator. -/
lemma eq_of_make {comparator : Comparator} {operand : Operand} {comparison : Comparison}
    (h : Comparison.make field comparator operand = .ok comparison) :
    comparison = ⟨field, comparator, operand⟩ ∧ isColumnPath field = true ∧
      comparator.Takes operand := by
  unfold Comparison.make at h
  split at h
  · rename_i hpath
    split at h
    · cases h
    · cases h
    · rename_i values hvalues
      cases h
      refine ⟨rfl, hpath, .inl ⟨rfl, ?_⟩⟩
      cases values with
      | nil => exact absurd rfl hvalues
      | cons first rest => exact ⟨first, rest, rfl⟩
    · rename_i scalar hcomparator
      cases h
      exact ⟨rfl, hpath, .inr ⟨hcomparator, scalar, rfl⟩⟩
    · cases h
  · cases h

/-- An entry with a field as its key is compared by the operator of its value, with the operand of
the operator, or by equality with its stored form. -/
lemma exists_of_fieldComparison {comparison : Comparison}
    (h : fieldComparison field value = .ok comparison) :
    (∃ key operand comparator read, value = .object [(key, operand)] ∧
      Comparator.ofKey? key = some comparator ∧ Operand.ofJson comparator operand = .ok read ∧
      Comparison.make field comparator read = .ok comparison) ∨
    ((∀ entries, value = .object entries →
        ¬ (entries.any fun entry => isOperatorKey entry.1) = true) ∧
      Comparison.make field .eq (.value (Scalar.ofJson value)) = .ok comparison) := by
  unfold fieldComparison at h
  split at h
  · cases h
  · rename_i entries hentries
    split at h
    · split at h
      · rename_i key operand hany
        split at h
        · cases h
        · rename_i comparator hcomparator
          obtain ⟨read, hread, hmake⟩ := exists_of_bind_eq_ok h
          exact .inl ⟨key, operand, comparator, read, rfl, hcomparator, hread, hmake⟩
      · cases h
    · rename_i hoperator
      refine .inr ⟨?_, h⟩
      rintro _ ⟨⟩
      exact hoperator
  · rename_i hempty hobject
    exact .inr ⟨fun entries hvalue => (hobject entries hvalue).elim, h⟩

/-! ## Entries and members -/

/-- Entries are joined as they are, and only a document without entries has no condition. -/
lemma exists_of_joinEntries {joined : Option Condition}
    (h : joinEntries connective conditions = .ok joined) :
    (conditions = [] ∧ joined = none) ∨
      ∃ condition, joined = some condition ∧
        Condition.joined connective conditions = .ok condition := by
  unfold joinEntries at h
  split at h
  · cases h
    exact .inl ⟨rfl, rfl⟩
  · obtain ⟨condition, hcondition, rfl⟩ := exists_of_map_eq_ok h
    exact .inr ⟨condition, rfl, hcondition⟩

/-- The condition of a document is that of its joined entries. -/
lemma joined_of_joinEntries (h : joinEntries connective conditions = .ok (some condition)) :
    Condition.joined connective conditions = .ok condition := by
  rcases exists_of_joinEntries h with ⟨-, hnone⟩ | ⟨joined, hsome, hjoined⟩
  · cases hnone
  · cases hsome
    exact hjoined

/-- An entry joins the members in the list of a connective, or compares a field. -/
lemma exists_of_entryCondition (h : entryCondition levels key value = .ok condition) :
    (∃ connective items members, Connective.ofKey? key = some connective ∧ value = .array items ∧
      memberConditions levels connective items = .ok members ∧
      Condition.joined connective members = .ok condition) ∨
    (Connective.ofKey? key = none ∧ ∃ comparison, fieldComparison key value = .ok comparison ∧
      condition = .comparison comparison) := by
  unfold entryCondition at h
  split at h
  · rename_i connective hconnective
    split at h
    · rename_i items
      split at h
      · cases h
      · obtain ⟨members, hmembers, hjoined⟩ := exists_of_bind_eq_ok h
        exact .inl ⟨connective, items, members, hconnective, rfl, hmembers, hjoined⟩
    · cases h
  · rename_i hconnective
    split at h
    · cases h
    · split at h
      · cases h
      · obtain ⟨comparison, hcomparison, rfl⟩ := exists_of_map_eq_ok h
        exact .inr ⟨hconnective, comparison, hcomparison, rfl⟩

/-- Every entry has a condition, in order. -/
lemma exists_of_entryConditions {rest : List (String × Json)}
    (h : entryConditions levels ((key, value) :: rest) = .ok conditions) :
    ∃ first others, entryCondition levels key value = .ok first ∧
      entryConditions levels rest = .ok others ∧ conditions = first :: others := by
  rw [entryConditions] at h
  obtain ⟨first, hfirst, h⟩ := exists_of_bind_eq_ok h
  obtain ⟨others, hothers, h⟩ := exists_of_bind_eq_ok h
  exact ⟨first, others, hfirst, hothers, (Except.ok.inj h).symm⟩

/-- A member is a document with entries, which are joined by AND. -/
lemma exists_of_memberCondition (h : memberCondition levels connective value = .ok condition) :
    ∃ entries below conditions, value = .object entries ∧ levels = below + 1 ∧
      entryConditions below entries = .ok conditions ∧
      Condition.joined .and conditions = .ok condition := by
  unfold memberCondition at h
  split at h
  · rename_i entries
    split at h
    · cases h
    · rename_i below
      obtain ⟨conditions, hconditions, h⟩ := exists_of_bind_eq_ok h
      obtain ⟨joined, hjoined, h⟩ := exists_of_bind_eq_ok h
      cases joined with
      | none => cases h
      | some joined =>
        cases h
        exact ⟨entries, below, conditions, rfl, rfl, hconditions, joined_of_joinEntries hjoined⟩
  · cases h

/-- Every member has a condition, in order. -/
lemma exists_of_memberConditions {rest : List Json}
    (h : memberConditions levels connective (value :: rest) = .ok conditions) :
    ∃ first others, memberCondition levels connective value = .ok first ∧
      memberConditions levels connective rest = .ok others ∧ conditions = first :: others := by
  rw [memberConditions] at h
  obtain ⟨first, hfirst, h⟩ := exists_of_bind_eq_ok h
  obtain ⟨others, hothers, h⟩ := exists_of_bind_eq_ok h
  exact ⟨first, others, hfirst, hothers, (Except.ok.inj h).symm⟩

/-! ## Documents -/

/-- A condition is that of the joined entries of a document. -/
lemma exists_of_compileJoined_some (h : compileJoined connective value = .ok (some condition)) :
    ∃ entries conditions, value = .object entries ∧
      entryConditions maxLevels entries = .ok conditions ∧
      Condition.joined connective conditions = .ok condition := by
  unfold compileJoined at h
  split at h
  · cases h
  · rename_i entries
    obtain ⟨conditions, hconditions, hjoined⟩ := exists_of_bind_eq_ok h
    exact ⟨entries, conditions, rfl, hconditions, joined_of_joinEntries hjoined⟩
  · cases h

/-- Only `null` and the document without entries have no condition. -/
lemma eq_of_compileJoined_none (h : compileJoined connective value = .ok none) :
    value = .null ∨ value = .object [] := by
  unfold compileJoined at h
  split at h
  · exact .inl rfl
  · rename_i entries
    obtain ⟨conditions, hconditions, hjoined⟩ := exists_of_bind_eq_ok h
    rcases exists_of_joinEntries hjoined with ⟨rfl, -⟩ | ⟨condition, hsome, -⟩
    · match entries, hconditions with
      | [], _ => exact .inr rfl
      | (key, value) :: rest, hconditions =>
        obtain ⟨first, others, -, -, hcons⟩ := exists_of_entryConditions hconditions
        cases hcons
    · cases hsome
  · cases h

end Filter

end DocTables
