import DocTables.Proofs.Query.Finalization
import DocTables.Proofs.Query.Grammar

/-!
# Comparisons by call and by document

A field is compared with a value by a call, or by the filter document that has the field as its only
key.  The call checks the name of the field first and the value then, the document is checked in the
opposite order; but both are refused together, and if they are not, the same comparison is added
(`Query.compared_as_filtered`).
-/

namespace DocTables

variable {field : String} {comparator : Comparator} {value : Json}

/-! ## Documents with one field -/

namespace Filter

/-- A document with a column as its only key is compiled to the comparison of its entry. -/
lemma compile_of_field (hpath : isColumnPath field = true) :
    compile (.object [(field, value)]) =
      (fieldComparison field value).map fun comparison => some (.comparison comparison) := by
  have hentry : entryCondition maxLevels field value =
      (fieldComparison field value).map .comparison :=
    entryCondition_of_field (isOperatorKey_of_isColumnPath hpath)
  rw [compile, compileJoined, entryConditions, hentry]
  cases fieldComparison field value with
  | error reason => rfl
  | ok comparison => rfl

/-- Only a column is compared with a value that is no list. -/
lemma isColumnPath_of_compile {joined : Option Condition} (hvalue : ∀ items, value ≠ .array items)
    (h : compile (.object [(field, value)]) = .ok joined) : isColumnPath field = true := by
  rcases (exists_compileJoined_iff .and _).mp ⟨joined, h⟩ with
    hnull | ⟨entries, hentries, hdocument⟩
  · cases hnull
  · cases hentries
    cases (isDocument_iff.mp hdocument).2 field value List.mem_cons_self with
    | group _ _ _ => exact absurd rfl (hvalue _)
    | field _ hpath _ => exact hpath

end Filter

/-- A scalar is read as it is stored. -/
lemma Operand.ofJson_eq_of_isScalar (hscalar : value.isScalar = true) :
    Operand.ofJson .eq value = .ok (.value (Scalar.ofJson value)) := if_pos hscalar

namespace Query

variable {query : Query}

/-- The query without a field that waits for its comparison. -/
def withoutPending (query : Query) : Query := { query with pendingField := none }

/-! ## Comparisons that are made -/

/-- The document adds the comparison of its entry. -/
lemma filter_of_field (hopen : query.finalized = false) (hpath : isColumnPath field = true) :
    query.filter (.object [(field, value)]) =
      (Filter.fieldComparison field value).map fun comparison =>
        query.addCondition (.comparison comparison) := by
  rw [Query.filter, requireOpen_eq_ok_iff.mpr hopen, Filter.compile_of_field hpath]
  cases Filter.fieldComparison field value with
  | error reason => rfl
  | ok comparison => rfl

/-- A comparison of the field that waits is added, and no field waits after it. -/
lemma compare_of_pending (hopen : query.finalized = false)
    (hpending : query.pendingField = some field) :
    query.compare comparator value =
      (Operand.ofJson comparator value >>= Comparison.make field comparator).map fun comparison =>
        query.withoutPending.addCondition (.comparison comparison) := by
  rw [compare, requireOpen_eq_ok_iff.mpr hopen, hpending]
  change (Operand.ofJson comparator value >>= _) = _
  cases Operand.ofJson comparator value with
  | error reason => rfl
  | ok operand =>
    change (Comparison.make field comparator operand >>= _) =
      (Comparison.make field comparator operand).map _
    cases Comparison.make field comparator operand with
    | error reason => rfl
    | ok comparison => rfl

/-- The call adds the comparison with its operand, whatever field waited before. -/
lemma compareField_of_path (hopen : query.finalized = false) (hpath : isColumnPath field = true) :
    query.compareField field comparator value =
      (Operand.ofJson comparator value >>= Comparison.make field comparator).map fun comparison =>
        (query.addCondition (.comparison comparison)).withoutPending := by
  have hnamed : query.onField field = .ok { query with pendingField := some field } := by
    rw [onField, requireOpen_eq_ok_iff.mpr hopen, hpath]
    rfl
  have hwaits : ({ query with pendingField := some field } : Query).finalized = false := hopen
  rw [compareField, hnamed]
  exact compare_of_pending hwaits rfl

/-! ## Comparisons that are refused -/

/-- The call is refused once the conditions are fixed, and for a field that is no column. -/
lemma compareField_refused (h : ¬ (query.finalized = false ∧ isColumnPath field = true)) :
    (query.compareField field comparator value).toOption = none := by
  by_cases hopen : query.finalized = false
  · have hpath : ¬ isColumnPath field = true := fun hpath => h ⟨hopen, hpath⟩
    rw [compareField, onField, requireOpen_eq_ok_iff.mpr hopen, if_neg hpath]
    rfl
  · rw [compareField, onField_of_finalized (by simpa using hopen)]
    rfl

/-- So is the document, if the value is no list. -/
lemma filter_refused (hvalue : ∀ items, value ≠ .array items)
    (h : ¬ (query.finalized = false ∧ isColumnPath field = true)) :
    (query.filter (.object [(field, value)])).toOption = none := by
  by_cases hopen : query.finalized = false
  · rw [Query.filter, requireOpen_eq_ok_iff.mpr hopen]
    change (Filter.compile (.object [(field, value)]) >>= _).toOption = none
    cases hcompile : Filter.compile (.object [(field, value)]) with
    | error reason => rfl
    | ok joined => exact absurd ⟨hopen, Filter.isColumnPath_of_compile hvalue hcompile⟩ h
  · rw [filter_of_finalized query (by simpa using hopen)]
    rfl

/-- The call and the document do the same, if they make the same comparison of a column. -/
lemma toOption_compareField_eq (comparator : Comparator) {spelled : Json}
    (hvalue : ∀ items, spelled ≠ .array items)
    (h : isColumnPath field = true → Filter.fieldComparison field spelled =
      Operand.ofJson comparator value >>= Comparison.make field comparator) :
    (query.compareField field comparator value).toOption =
      (query.filter (.object [(field, spelled)])).toOption.map withoutPending := by
  by_cases hmade : query.finalized = false ∧ isColumnPath field = true
  · obtain ⟨hopen, hpath⟩ := hmade
    rw [compareField_of_path hopen hpath, filter_of_field hopen hpath, h hpath]
    cases Operand.ofJson comparator value >>= Comparison.make field comparator with
    | error reason => rfl
    | ok comparison => rfl
  · rw [compareField_refused hmade, filter_refused hvalue hmade]
    rfl

/-- The call is made just if the conditions are not fixed, the field is a column, and its operator
with the value is one of the values that fields are compared with. -/
lemma exists_compareField_iff :
    (∃ next, query.compareField field comparator value = .ok next) ↔
      query.finalized = false ∧ isColumnPath field = true ∧
        Filter.IsFieldValue (.object [(comparator.key, value)]) := by
  rw [← Filter.exists_fieldComparison_iff, Filter.fieldComparison_operator]
  constructor
  · rintro ⟨next, hnext⟩
    by_cases hmade : query.finalized = false ∧ isColumnPath field = true
    · obtain ⟨hopen, hpath⟩ := hmade
      rw [compareField_of_path hopen hpath] at hnext
      obtain ⟨comparison, hcomparison, -⟩ := exists_of_map_eq_ok hnext
      exact ⟨hopen, comparison, hcomparison⟩
    · have hrefused : (query.compareField field comparator value).toOption = none :=
        compareField_refused hmade
      rw [hnext] at hrefused
      cases hrefused
  · rintro ⟨hopen, comparison, hcomparison⟩
    obtain ⟨operand, -, hmake⟩ := exists_of_bind_eq_ok hcomparison
    rw [compareField_of_path hopen (Filter.eq_of_make hmake).2.1, hcomparison]
    exact ⟨_, rfl⟩

/-- The call that compares a field with a value, and the filter document with the field as its only
key and the operator with the value below it, are refused together; if they are not, they make the
same query of any query, except that no field waits for its comparison after the call.  So do the
naming of a field with equality after it and the document with a scalar for the field.  Neither is
always refused: the call is made just if the conditions are not fixed, the field is a column, and
the operator is one that takes the value. -/
theorem compared_as_filtered (query : Query) (field : String) (comparator : Comparator)
    (value : Json) :
    (query.compareField field comparator value).toOption =
      (query.filter (.object [(field, .object [(comparator.key, value)])])).toOption.map
        withoutPending ∧
    (value.isScalar = true →
      (query.onField field >>= fun named => named.compare .eq value).toOption =
        (query.filter (.object [(field, value)])).toOption.map withoutPending) ∧
    ((∃ next, query.compareField field comparator value = .ok next) ↔
      query.finalized = false ∧ isColumnPath field = true ∧
        Filter.IsFieldValue (.object [(comparator.key, value)])) := by
  refine ⟨?_, fun hscalar => ?_, exists_compareField_iff⟩
  · exact toOption_compareField_eq comparator nofun fun _ =>
      Filter.fieldComparison_operator comparator value
  · have hlist : ∀ items, value ≠ .array items := by
      rintro items rfl
      cases hscalar
    refine toOption_compareField_eq .eq hlist fun _ => ?_
    rw [Operand.ofJson_eq_of_isScalar hscalar, Filter.fieldComparison_of_isScalar hscalar]
    rfl

/-- Several ages, one of them missing, and the operator for them. -/
def ages : Json := .object [("$in", .array [.number (.int 20), .null])]

/-- While the city waits for its comparison, the age is compared with several values, or tested for
`NULL`, by a call and by a document: the conditions are the same, and the city still waits after the
document only. -/
theorem age_compared_as_filtered : ∃ start query, ofTable "people" = .ok start ∧
    start.onField "city" = .ok query ∧
    (∃ next filtered,
      query.compareField "people.age" .oneOf (.array [.number (.int 20), .null]) = .ok next ∧
      query.filter (.object [("people.age", ages)]) = .ok filtered ∧
      filtered.pendingField = some "city" ∧ next = filtered.withoutPending ∧
      next.condition.map Condition.clause = some "(people.age IN (20,NULL))") ∧
    ∃ next filtered, (query.onField "age" >>= fun named => named.compare .eq .null) = .ok next ∧
      query.filter (.object [("age", .null)]) = .ok filtered ∧ next = filtered.withoutPending ∧
      next.condition.map Condition.clause = some "(age IS NULL)" := by
  have hrun : Except.toOption (do
      let start ← ofTable "people"
      let query ← start.onField "city"
      let several ← query.filter (.object [("people.age", ages)])
      let missing ← query.filter (.object [("age", .null)])
      return (several.pendingField, several.condition.map Condition.clause,
        missing.condition.map Condition.clause)) =
      some (some "city", some "(people.age IN (20,NULL))", some "(age IS NULL)") := by
    decide +kernel
  obtain ⟨start, hstart, hrun⟩ := exists_of_bind_eq_ok (eq_ok_of_toOption hrun)
  obtain ⟨query, hquery, hrun⟩ := exists_of_bind_eq_ok hrun
  obtain ⟨several, hseveral, hrun⟩ := exists_of_bind_eq_ok hrun
  obtain ⟨missing, hmissing, hrun⟩ := exists_of_bind_eq_ok hrun
  obtain ⟨hpending, hclauses⟩ := Prod.mk.inj (Except.ok.inj hrun)
  obtain ⟨hseveralClause, hmissingClause⟩ := Prod.mk.inj hclauses
  have hcalled := (compared_as_filtered query "people.age" .oneOf
    (.array [.number (.int 20), .null])).1
  have htested := (compared_as_filtered query "age" .eq .null).2.1 rfl
  change _ = (query.filter (.object [("people.age", ages)])).toOption.map withoutPending at hcalled
  rw [hseveral] at hcalled
  rw [hmissing] at htested
  exact ⟨start, query, hstart, hquery,
    ⟨several.withoutPending, several, eq_ok_of_toOption hcalled, hseveral, hpending, rfl,
      hseveralClause⟩,
    ⟨missing.withoutPending, missing, eq_ok_of_toOption htested, hmissing, rfl, hmissingClause⟩⟩

end Query

end DocTables
