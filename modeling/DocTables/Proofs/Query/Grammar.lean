import DocTables.Proofs.Name
import DocTables.Proofs.Query.Compilation

/-!
# The grammar of filter documents

A filter document is compiled just if it is well-formed.  What that means is said here by a grammar
on JSON that knows nothing of the compiler: documents, the entries in them, and the members in the
list of a connective, each at the level at which it stands.  The compiler counts levels downwards,
from those that are left; the grammar counts them upwards, from the document itself, and stops at a
limit.

`nesting` is the largest number of connectives that are nested in a document, wherever in it they
stand.  Apart from its levels a document is well-formed under every limit or under none, so the
limit is one on `nesting` alone (`isDocument_iff_nesting_le`).
-/

namespace DocTables

/-! ## Keys -/

/-- The comparator of a key is the one with this key. -/
lemma Comparator.ofKey?_eq_some_iff {key : String} {comparator : Comparator} :
    Comparator.ofKey? key = some comparator ↔ comparator.key = key := by
  constructor
  · intro h
    have hfound := List.find?_some h
    exact beq_iff_eq.mp hfound
  · rintro rfl
    cases comparator <;> rfl

/-- The connective of a key is the one with this key. -/
lemma Connective.ofKey?_eq_some_iff {key : String} {connective : Connective} :
    Connective.ofKey? key = some connective ↔ connective.key = key := by
  constructor
  · intro h
    unfold Connective.ofKey? at h
    split at h
    · rename_i hkey
      cases h
      exact hkey.symm
    · split at h
      · rename_i hkey
        cases h
        exact hkey.symm
      · cases h
  · rintro rfl
    cases connective <;> rfl

namespace Filter

/-- The keys of comparators are operators. -/
lemma isOperatorKey_comparator (comparator : Comparator) : isOperatorKey comparator.key = true := by
  cases comparator <;> decide

/-- The keys of connectives are operators. -/
lemma isOperatorKey_connective (connective : Connective) : isOperatorKey connective.key = true := by
  cases connective <;> decide

/-- No operator is the path of a column. -/
lemma isOperatorKey_of_isColumnPath {path : String} (h : isColumnPath path = true) :
    isOperatorKey path = false := by
  obtain ⟨c, rest, hpath, hc, -⟩ := exists_of_isColumnPath h
  have hdollar : c ≠ '$' := by
    rintro rfl
    exact absurd hc (by decide)
  rw [isOperatorKey, hpath, List.head?_cons]
  simpa using hdollar

/-! ## The grammar -/

/-- The values that a field may be compared with. -/
inductive IsFieldValue : Json → Prop
  /-- A scalar. -/
  | scalar {value : Json} (hscalar : value.isScalar = true) : IsFieldValue value
  /-- A list. -/
  | list (items : List Json) : IsFieldValue (.array items)
  /-- An object that is not empty and has no operator in it. -/
  | object {entries : List (String × Json)} (hne : entries ≠ [])
    (hplain : ∀ entry ∈ entries, isOperatorKey entry.1 = false) : IsFieldValue (.object entries)
  /-- One operator of comparison with a scalar. -/
  | comparison {key : String} {operand : Json}
    (hkey : key ∈ ["$eq", "$ne", "$gt", "$gte", "$lt", "$lte"])
    (hscalar : operand.isScalar = true) :
    IsFieldValue (.object [(key, operand)])
  /-- The operator of membership with scalars, at least one. -/
  | oneOf {items : List Json} (hne : items ≠ []) (hscalars : ∀ item ∈ items, item.isScalar = true) :
    IsFieldValue (.object [("$in", .array items)])

mutual

/-- The entries of a well-formed document at a level that is not beyond the limit. -/
inductive IsDocument (limit : Nat) : Nat → List (String × Json) → Prop
  /-- Every entry is well-formed. -/
  | entries {level : Nat} {entries : List (String × Json)} (hlevel : level ≤ limit)
    (hentries : ∀ key value, (key, value) ∈ entries → IsEntry limit level key value) :
    IsDocument limit level entries

/-- A well-formed entry of a document at a level. -/
inductive IsEntry (limit : Nat) : Nat → String → Json → Prop
  /-- A connective with members, at least one. -/
  | group {level : Nat} {key : String} {items : List Json} (hkey : key = "$and" ∨ key = "$or")
    (hne : items ≠ []) (hitems : ∀ item ∈ items, IsMember limit (level + 1) item) :
    IsEntry limit level key (.array items)
  /-- A field with what it is compared with. -/
  | field {level : Nat} {key : String} {value : Json} (hkey : isOperatorKey key = false)
    (hpath : isColumnPath key = true) (hvalue : IsFieldValue value) : IsEntry limit level key value

/-- A well-formed member in the list of a connective. -/
inductive IsMember (limit : Nat) : Nat → Json → Prop
  /-- A document that is not empty. -/
  | document {level : Nat} {entries : List (String × Json)} (hne : entries ≠ [])
    (hdocument : IsDocument limit level entries) : IsMember limit level (.object entries)

end

mutual

/-- How many connectives are nested in the value of an entry. -/
def entryNesting (key : String) : Json → Nat
  | .array items => if key = "$and" ∨ key = "$or" then membersNesting items + 1 else 0
  | _ => 0

/-- How many connectives are nested in the entries of a document. -/
def nesting : List (String × Json) → Nat
  | [] => 0
  | (key, value) :: rest => max (entryNesting key value) (nesting rest)

/-- How many connectives are nested in a member of a group. -/
def memberNesting : Json → Nat
  | .object entries => nesting entries
  | _ => 0

/-- How many connectives are nested in the members of a group. -/
def membersNesting : List Json → Nat
  | [] => 0
  | member :: rest => max (memberNesting member) (membersNesting rest)

end

variable {connective : Connective} {key field : String} {value : Json} {limit level levels : Nat}
  {entries : List (String × Json)}

/-! ## Fields -/

/-- A comparison is made just if its field is a column path and its operand suits its comparator. -/
lemma exists_make_iff {comparator : Comparator} {operand : Operand} :
    (∃ comparison, Comparison.make field comparator operand = .ok comparison) ↔
      isColumnPath field = true ∧ comparator.Takes operand := by
  constructor
  · rintro ⟨comparison, h⟩
    exact (eq_of_make h).2
  · rintro ⟨hpath, ⟨rfl, first, rest, rfl⟩ | ⟨hcomparator, scalar, rfl⟩⟩
    · exact ⟨_, if_pos hpath⟩
    · refine ⟨⟨field, comparator, .value scalar⟩, ?_⟩
      cases comparator with
      | oneOf => exact absurd rfl hcomparator
      | _ => exact if_pos hpath

/-- An operand is read and suits its comparator just if it is what the comparator asks for. -/
lemma exists_operand_iff {comparator : Comparator} :
    (∃ operand, Operand.ofJson comparator value = .ok operand ∧ comparator.Takes operand) ↔
      (comparator ≠ .oneOf ∧ value.isScalar = true) ∨
        (comparator = .oneOf ∧ ∃ items, value = .array items ∧ items ≠ [] ∧
          ∀ item ∈ items, item.isScalar = true) := by
  by_cases hcomparator : comparator = .oneOf
  · subst hcomparator
    constructor
    · rintro ⟨operand, hread, htakes⟩
      unfold Operand.ofJson at hread
      split at hread
      · rename_i items _
        split at hread
        · rename_i hscalars
          cases hread
          refine .inr ⟨rfl, items, rfl, ?_, List.all_eq_true.mp hscalars⟩
          rcases htakes with ⟨-, first, rest, hlist⟩ | ⟨hne, -⟩
          · rintro rfl
            cases hlist
          · exact absurd rfl hne
        · cases hread
      · cases hread
      · rename_i hne _
        exact absurd rfl hne
    · rintro (⟨hne, -⟩ | ⟨-, items, rfl, hne, hscalars⟩)
      · exact absurd rfl hne
      · obtain ⟨first, rest, rfl⟩ := List.exists_cons_of_ne_nil hne
        have hall : (first :: rest).all Json.isScalar = true := List.all_eq_true.mpr hscalars
        exact ⟨.list ((first :: rest).map Scalar.ofJson), if_pos hall, .inl ⟨rfl, _, _, rfl⟩⟩
  · have hread : Operand.ofJson comparator value =
        if value.isScalar then .ok (.value (Scalar.ofJson value))
        else .error (.mismatch comparator.key .scalar) := by
      cases comparator with
      | oneOf => exact absurd rfl hcomparator
      | _ => rfl
    rw [hread]
    constructor
    · rintro ⟨operand, hoperand, -⟩
      split at hoperand
      · rename_i hscalar
        exact .inl ⟨hcomparator, hscalar⟩
      · cases hoperand
    · rintro (⟨-, hscalar⟩ | ⟨heq, -⟩)
      · exact ⟨_, if_pos hscalar, .inr ⟨hcomparator, _, rfl⟩⟩
      · exact absurd heq hcomparator

/-- A value that is compared in its stored form is compared just if its field is a column path. -/
lemma exists_storedComparison_iff
    (h : fieldComparison field value = Comparison.make field .eq (.value (Scalar.ofJson value))) :
    (∃ comparison, fieldComparison field value = .ok comparison) ↔ isColumnPath field = true := by
  rw [h, exists_make_iff]
  have htakes : Comparator.Takes .eq (.value (Scalar.ofJson value)) := .inr ⟨by decide, _, rfl⟩
  exact and_iff_left htakes

/-- A scalar is compared in its stored form. -/
lemma fieldComparison_of_isScalar (h : value.isScalar = true) :
    fieldComparison field value = Comparison.make field .eq (.value (Scalar.ofJson value)) := by
  cases value with
  | array items => cases h
  | object entries => cases h
  | _ => rfl

/-- An operator with its operand is compared as it stands. -/
lemma fieldComparison_operator (comparator : Comparator) (operand : Json) :
    fieldComparison field (.object [(comparator.key, operand)]) =
      Operand.ofJson comparator operand >>= Comparison.make field comparator := by
  have hkey : Comparator.ofKey? comparator.key = some comparator :=
    Comparator.ofKey?_eq_some_iff.mpr rfl
  have hany : ([(comparator.key, operand)].any fun entry => isOperatorKey entry.1) = true := by
    rw [List.any_cons, isOperatorKey_comparator, Bool.true_or]
  simp only [fieldComparison, hany, if_true, hkey]

/-- An operator with its operand is compared just if the operand is what the operator asks for. -/
lemma exists_operatorComparison_iff (comparator : Comparator) {operand : Json} :
    (∃ comparison, fieldComparison field (.object [(comparator.key, operand)]) = .ok comparison) ↔
      isColumnPath field = true ∧
        ∃ read, Operand.ofJson comparator operand = .ok read ∧ comparator.Takes read := by
  rw [fieldComparison_operator]
  constructor
  · rintro ⟨comparison, h⟩
    obtain ⟨read, hread, hmake⟩ := exists_of_bind_eq_ok h
    obtain ⟨-, hpath, htakes⟩ := eq_of_make hmake
    exact ⟨hpath, read, hread, htakes⟩
  · rintro ⟨hpath, read, hread, htakes⟩
    obtain ⟨comparison, hmake⟩ := exists_make_iff.mpr ⟨hpath, htakes⟩
    refine ⟨comparison, ?_⟩
    rw [hread]
    exact hmake

/-- The keys of the comparators that take one value. -/
lemma mem_scalarKeys_iff :
    key ∈ ["$eq", "$ne", "$gt", "$gte", "$lt", "$lte"] ↔
      ∃ comparator : Comparator, comparator ≠ .oneOf ∧ comparator.key = key := by
  constructor
  · intro h
    simp only [List.mem_cons, List.not_mem_nil, or_false] at h
    rcases h with rfl | rfl | rfl | rfl | rfl | rfl
    · exact ⟨.eq, by decide, rfl⟩
    · exact ⟨.ne, by decide, rfl⟩
    · exact ⟨.gt, by decide, rfl⟩
    · exact ⟨.gte, by decide, rfl⟩
    · exact ⟨.lt, by decide, rfl⟩
    · exact ⟨.lte, by decide, rfl⟩
  · rintro ⟨comparator, hne, rfl⟩
    cases comparator with
    | oneOf => exact absurd rfl hne
    | _ => simp [Comparator.key]

/-- An entry with a field as its key is compiled just if the field is a column path and its value
one of the values that fields are compared with. -/
lemma exists_fieldComparison_iff :
    (∃ comparison, fieldComparison field value = .ok comparison) ↔
      isColumnPath field = true ∧ IsFieldValue value := by
  constructor
  · rintro ⟨comparison, h⟩
    rcases exists_of_fieldComparison h with
      ⟨key, operand, comparator, read, rfl, hkey, -, -⟩ | ⟨hplain, hmake⟩
    · obtain rfl := Comparator.ofKey?_eq_some_iff.mp hkey
      obtain ⟨hpath, hoperand⟩ := (exists_operatorComparison_iff comparator).mp ⟨comparison, h⟩
      refine ⟨hpath, ?_⟩
      rcases exists_operand_iff.mp hoperand with ⟨hne, hscalar⟩ | ⟨rfl, items, rfl, hne, hscalars⟩
      · exact .comparison (mem_scalarKeys_iff.mpr ⟨comparator, hne, rfl⟩) hscalar
      · exact .oneOf hne hscalars
    · refine ⟨(eq_of_make hmake).2.1, ?_⟩
      cases value with
      | object entries =>
        refine .object ?_ fun entry hentry => ?_
        · rintro rfl
          cases h
        · have hnone := List.any_eq_false.mp (Bool.eq_false_iff.mpr (hplain entries rfl))
          exact Bool.eq_false_iff.mpr (hnone entry hentry)
      | array items => exact .list items
      | _ => exact .scalar rfl
  · rintro ⟨hpath, hvalue⟩
    cases hvalue with
    | scalar hscalar =>
      exact (exists_storedComparison_iff (fieldComparison_of_isScalar hscalar)).mpr hpath
    | list items => exact (exists_storedComparison_iff rfl).mpr hpath
    | @object entries hne hplain =>
      have hany : (entries.any fun entry => isOperatorKey entry.1) = false :=
        List.any_eq_false.mpr fun entry hentry => Bool.eq_false_iff.mp (hplain entry hentry)
      obtain ⟨first, rest, rfl⟩ := List.exists_cons_of_ne_nil hne
      refine (exists_storedComparison_iff ?_).mpr hpath
      simp only [fieldComparison, hany, Bool.false_eq_true, if_false]
    | comparison hkey hscalar =>
      obtain ⟨comparator, hne, rfl⟩ := mem_scalarKeys_iff.mp hkey
      exact (exists_operatorComparison_iff comparator).mpr
        ⟨hpath, exists_operand_iff.mpr (.inl ⟨hne, hscalar⟩)⟩
    | @oneOf items hne hscalars =>
      have hoperand : ∃ read, Operand.ofJson .oneOf (.array items) = .ok read ∧
          Comparator.Takes .oneOf read :=
        exists_operand_iff.mpr (.inr ⟨rfl, items, rfl, hne, hscalars⟩)
      exact (exists_operatorComparison_iff .oneOf).mpr ⟨hpath, hoperand⟩

/-! ## Documents -/

/-- Conditions are joined just if there are any. -/
lemma exists_joined_iff {conditions : List Condition} :
    (∃ condition, Condition.joined connective conditions = .ok condition) ↔ conditions ≠ [] := by
  match conditions with
  | [] =>
    constructor
    · rintro ⟨condition, h⟩
      cases h
    · intro h
      exact absurd rfl h
  | [only] => exact ⟨fun _ => List.cons_ne_nil _ _, fun _ => ⟨only, rfl⟩⟩
  | first :: second :: rest => exact ⟨fun _ => List.cons_ne_nil _ _, fun _ => ⟨_, rfl⟩⟩

/-- A document has as many conditions as entries. -/
lemma length_of_entryConditions {conditions : List Condition}
    (h : entryConditions levels entries = .ok conditions) : conditions.length = entries.length := by
  induction entries generalizing conditions with
  | nil =>
    cases h
    rfl
  | cons entry rest ih =>
    obtain ⟨first, others, -, hothers, rfl⟩ := exists_of_entryConditions h
    rw [List.length_cons, List.length_cons, ih hothers]

/-- A group has as many conditions as members. -/
lemma length_of_memberConditions {items : List Json} {conditions : List Condition}
    (h : memberConditions levels connective items = .ok conditions) :
    conditions.length = items.length := by
  induction items generalizing conditions with
  | nil =>
    cases h
    rfl
  | cons item rest ih =>
    obtain ⟨first, others, -, hothers, rfl⟩ := exists_of_memberConditions h
    rw [List.length_cons, List.length_cons, ih hothers]

/-- Lists of the same length are empty together. -/
lemma ne_nil_iff_of_length_eq {α β : Type} {l : List α} {m : List β} (h : l.length = m.length) :
    l ≠ [] ↔ m ≠ [] := by
  rw [← List.length_pos_iff, ← List.length_pos_iff, h]

/-- An entry with a connective as its key is compiled just if its value is a list that is not empty
and its members are compiled. -/
lemma exists_groupCondition_iff (hkey : Connective.ofKey? key = some connective) :
    (∃ condition, entryCondition levels key value = .ok condition) ↔
      ∃ items, value = .array items ∧ items ≠ [] ∧
        ∃ members, memberConditions levels connective items = .ok members := by
  constructor
  · rintro ⟨condition, h⟩
    rcases exists_of_entryCondition h with
      ⟨connective', items, members, hkey', rfl, hmembers, hjoined⟩ | ⟨hnone, -⟩
    · cases hkey.symm.trans hkey'
      have hne := exists_joined_iff.mp ⟨condition, hjoined⟩
      exact ⟨items, rfl, (ne_nil_iff_of_length_eq (length_of_memberConditions hmembers)).mp hne,
        members, hmembers⟩
    · rw [hkey] at hnone
      cases hnone
  · rintro ⟨items, rfl, hne, members, hmembers⟩
    have hjoin := (ne_nil_iff_of_length_eq (length_of_memberConditions hmembers)).mpr hne
    obtain ⟨condition, hjoined⟩ := exists_joined_iff.mpr hjoin
    refine ⟨condition, ?_⟩
    have hempty : items.isEmpty = false := List.isEmpty_eq_false_iff.mpr hne
    rw [entryCondition, hkey]
    simp only [hempty, Bool.false_eq_true, if_false, hmembers]
    exact hjoined

/-- An entry with a field as its key is compiled to the comparison that it spells. -/
lemma entryCondition_of_field (h : isOperatorKey key = false) :
    entryCondition levels key value = (fieldComparison key value).map .comparison := by
  have hconnective : Connective.ofKey? key = none := by
    rw [Option.eq_none_iff_forall_ne_some]
    intro connective hsome
    obtain rfl := Connective.ofKey?_eq_some_iff.mp hsome
    rw [isOperatorKey_connective] at h
    cases h
  have hcomparator : Comparator.ofKey? key = none := by
    rw [Option.eq_none_iff_forall_ne_some]
    intro comparator hsome
    obtain rfl := Comparator.ofKey?_eq_some_iff.mp hsome
    rw [isOperatorKey_comparator] at h
    cases h
  rw [entryCondition, hconnective]
  simp only [hcomparator, h, Option.isSome_none, Bool.false_eq_true, if_false]

/-- An entry with any other key is compiled just if its key is no operator and it is compiled as a
field. -/
lemma exists_fieldCondition_iff (hkey : Connective.ofKey? key = none) :
    (∃ condition, entryCondition levels key value = .ok condition) ↔
      isOperatorKey key = false ∧ ∃ comparison, fieldComparison key value = .ok comparison := by
  cases hoperator : isOperatorKey key with
  | true =>
    rw [entryCondition, hkey]
    cases hcomparator : Comparator.ofKey? key with
    | some comparator => simp
    | none => simp [hoperator]
  | false =>
    rw [entryCondition_of_field hoperator]
    simp only [true_and]
    constructor
    · rintro ⟨condition, h⟩
      obtain ⟨comparison, hcomparison, -⟩ := exists_of_map_eq_ok h
      exact ⟨comparison, hcomparison⟩
    · rintro ⟨comparison, hcomparison⟩
      refine ⟨.comparison comparison, ?_⟩
      rw [hcomparison]
      rfl

/-- A member is compiled just if it is a document that is not empty, there is a level left for it,
and its entries are compiled with one level less. -/
lemma exists_memberCondition_iff :
    (∃ condition, memberCondition levels connective value = .ok condition) ↔
      ∃ entries below, value = .object entries ∧ levels = below + 1 ∧ entries ≠ [] ∧
        ∃ conditions, entryConditions below entries = .ok conditions := by
  constructor
  · rintro ⟨condition, h⟩
    obtain ⟨entries, below, conditions, rfl, rfl, hconditions, hjoined⟩ :=
      exists_of_memberCondition h
    have hne := exists_joined_iff.mp ⟨condition, hjoined⟩
    exact ⟨entries, below, rfl, rfl,
      (ne_nil_iff_of_length_eq (length_of_entryConditions hconditions)).mp hne,
      conditions, hconditions⟩
  · rintro ⟨entries, below, rfl, rfl, hne, conditions, hconditions⟩
    have hjoin := (ne_nil_iff_of_length_eq (length_of_entryConditions hconditions)).mpr hne
    obtain ⟨first, rest, rfl⟩ := List.exists_cons_of_ne_nil hjoin
    obtain ⟨condition, hjoined⟩ :
        ∃ condition, Condition.joined .and (first :: rest) = .ok condition :=
      exists_joined_iff.mpr hjoin
    have hentries : joinEntries .and (first :: rest) = .ok (some condition) := by
      rw [joinEntries, hjoined]
      · rfl
      · rintro ⟨⟩
    refine ⟨condition, ?_⟩
    rw [memberCondition, hconditions]
    change joinEntries .and (first :: rest) >>= _ = _
    rw [hentries]
    rfl

/-- A key with a connective is one of two. -/
lemma exists_connective_iff :
    (∃ connective, Connective.ofKey? key = some connective) ↔ key = "$and" ∨ key = "$or" := by
  constructor
  · rintro ⟨connective, h⟩
    obtain rfl := Connective.ofKey?_eq_some_iff.mp h
    cases connective
    · exact .inl rfl
    · exact .inr rfl
  · rintro (rfl | rfl)
    · exact ⟨.and, rfl⟩
    · exact ⟨.or, rfl⟩

/-- An entry with a connective as its key is well-formed just if its value is a list that is not
empty of well-formed members. -/
lemma isEntry_group_iff (hkey : Connective.ofKey? key = some connective) :
    IsEntry limit level key value ↔ ∃ items, value = .array items ∧ items ≠ [] ∧
      ∀ item ∈ items, IsMember limit (level + 1) item := by
  constructor
  · intro h
    cases h with
    | @group _ _ items _ hne hitems => exact ⟨items, rfl, hne, hitems⟩
    | field hoperator hpath hvalue =>
      obtain rfl := Connective.ofKey?_eq_some_iff.mp hkey
      rw [isOperatorKey_connective] at hoperator
      cases hoperator
  · rintro ⟨items, rfl, hne, hitems⟩
    exact .group (exists_connective_iff.mp ⟨connective, hkey⟩) hne hitems

/-- An entry with any other key is well-formed just if its key is a column path that is no operator,
and its value one of the values that fields are compared with. -/
lemma isEntry_field_iff (hkey : Connective.ofKey? key = none) :
    IsEntry limit level key value ↔
      isOperatorKey key = false ∧ isColumnPath key = true ∧ IsFieldValue value := by
  constructor
  · intro h
    cases h with
    | group hconnective hne hitems =>
      obtain ⟨connective, hsome⟩ := exists_connective_iff.mpr hconnective
      rw [hkey] at hsome
      cases hsome
    | field hoperator hpath hvalue => exact ⟨hoperator, hpath, hvalue⟩
  · rintro ⟨hoperator, hpath, hvalue⟩
    exact .field hoperator hpath hvalue

/-- A document that is well-formed is so in each of its entries, at a level within the limit. -/
lemma isDocument_iff :
    IsDocument limit level entries ↔
      level ≤ limit ∧ ∀ key value, (key, value) ∈ entries → IsEntry limit level key value :=
  ⟨fun ⟨hlevel, hentries⟩ => ⟨hlevel, hentries⟩, fun h => .entries h.1 h.2⟩

/-- A member is well-formed just if it is a document that is not empty. -/
lemma isMember_iff :
    IsMember limit level value ↔
      ∃ entries, value = .object entries ∧ entries ≠ [] ∧ IsDocument limit level entries := by
  constructor
  · intro h
    cases h with
    | document hne hdocument => exact ⟨_, rfl, hne, hdocument⟩
  · rintro ⟨entries, rfl, hne, hdocument⟩
    exact .document hne hdocument

mutual

/-- An entry is compiled just if it is well-formed, when the levels above it and those left below it
make up the limit. -/
lemma exists_entryCondition_iff {limit level levels : Nat} (hlevels : level + levels = limit)
    (key : String) (value : Json) :
    (∃ condition, entryCondition levels key value = .ok condition) ↔
      IsEntry limit level key value := by
  cases hkey : Connective.ofKey? key with
  | none => rw [exists_fieldCondition_iff hkey, exists_fieldComparison_iff, isEntry_field_iff hkey]
  | some connective =>
    rw [exists_groupCondition_iff hkey, isEntry_group_iff hkey]
    match value with
    | .array items =>
      have hmembers := exists_memberConditions_iff hlevels connective items
      simp only [Json.array.injEq, exists_eq_left', hmembers]
    | .null | .bool _ | .number _ | .string _ | .object _ => simp

/-- Entries are compiled just if each of them is well-formed. -/
lemma exists_entryConditions_iff {limit level levels : Nat} (hlevels : level + levels = limit)
    (entries : List (String × Json)) :
    (∃ conditions, entryConditions levels entries = .ok conditions) ↔
      ∀ key value, (key, value) ∈ entries → IsEntry limit level key value := by
  match entries with
  | [] => simp [entryConditions]
  | (key, value) :: rest =>
    have hfirst := exists_entryCondition_iff hlevels key value
    have hrest := exists_entryConditions_iff hlevels rest
    constructor
    · rintro ⟨conditions, h⟩ key' value' hmem
      obtain ⟨first, others, hentry, hothers, -⟩ := exists_of_entryConditions h
      rcases List.mem_cons.mp hmem with heq | hmem
      · cases heq
        exact hfirst.mp ⟨first, hentry⟩
      · exact hrest.mp ⟨others, hothers⟩ key' value' hmem
    · intro h
      obtain ⟨first, hentry⟩ := hfirst.mpr (h key value List.mem_cons_self)
      obtain ⟨others, hothers⟩ := hrest.mpr fun key' value' hmem =>
        h key' value' (List.mem_cons_of_mem _ hmem)
      refine ⟨first :: others, ?_⟩
      rw [entryConditions, hentry]
      change entryConditions levels rest >>= _ = _
      rw [hothers]
      rfl

/-- A member is compiled just if it is well-formed one level further down. -/
lemma exists_memberCondition_iff_isMember {limit level levels : Nat}
    (hlevels : level + levels = limit) (connective : Connective) (member : Json) :
    (∃ condition, memberCondition levels connective member = .ok condition) ↔
      IsMember limit (level + 1) member := by
  rw [exists_memberCondition_iff, isMember_iff]
  match member with
  | .object entries =>
    simp only [Json.object.injEq, exists_and_left, exists_eq_left', isDocument_iff]
    cases levels with
    | zero =>
      have hbeyond : ¬ level + 1 ≤ limit := by omega
      simp [hbeyond]
    | succ below =>
      have hwithin : level + 1 ≤ limit := by omega
      have hentries := exists_entryConditions_iff (show level + 1 + below = limit by omega) entries
      simp [hwithin, hentries]
  | .null | .bool _ | .number _ | .string _ | .array _ => simp

/-- The members of a group are compiled just if each of them is well-formed one level further
down. -/
lemma exists_memberConditions_iff {limit level levels : Nat} (hlevels : level + levels = limit)
    (connective : Connective) (items : List Json) :
    (∃ conditions, memberConditions levels connective items = .ok conditions) ↔
      ∀ item ∈ items, IsMember limit (level + 1) item := by
  match items with
  | [] => simp [memberConditions]
  | member :: rest =>
    have hfirst := exists_memberCondition_iff_isMember hlevels connective member
    have hrest := exists_memberConditions_iff hlevels connective rest
    rw [List.forall_mem_cons, ← hfirst, ← hrest]
    constructor
    · rintro ⟨conditions, h⟩
      obtain ⟨first, others, hmember, hothers, -⟩ := exists_of_memberConditions h
      exact ⟨⟨first, hmember⟩, others, hothers⟩
    · rintro ⟨⟨first, hmember⟩, others, hothers⟩
      refine ⟨first :: others, ?_⟩
      rw [memberConditions, hmember]
      change memberConditions levels connective rest >>= _ = _
      rw [hothers]
      rfl

end

/-! ## Levels -/

mutual

/-- An entry that is well-formed under some limit is so under any that its nesting keeps to. -/
lemma isEntry_iff_nesting_le {limit other level : Nat} {key : String} {value : Json}
    (h : IsEntry limit level key value) (hlevel : level ≤ other) :
    IsEntry other level key value ↔ level + entryNesting key value ≤ other := by
  cases hkey : Connective.ofKey? key with
  | none =>
    have hconnective : ¬ (key = "$and" ∨ key = "$or") := by
      rw [← exists_connective_iff, hkey]
      rintro ⟨connective, hsome⟩
      cases hsome
    have hnesting : entryNesting key value = 0 := by
      cases value <;> simp [entryNesting, hconnective]
    rw [isEntry_field_iff hkey] at h ⊢
    rw [hnesting]
    exact iff_of_true h hlevel
  | some connective =>
    have hconnective : key = "$and" ∨ key = "$or" := exists_connective_iff.mp ⟨connective, hkey⟩
    rw [isEntry_group_iff hkey] at h ⊢
    match value, h with
    | .array items, h =>
      obtain ⟨_, heq, hne, hitems⟩ := h
      obtain rfl := Json.array.inj heq
      have hmembers := areMembers_iff_nesting_le hitems hlevel
      rw [entryNesting, if_pos hconnective, ← Nat.add_assoc]
      rw [or_iff_right hne] at hmembers
      simp only [Json.array.injEq, exists_eq_left', hmembers, ne_eq, hne, not_false_eq_true,
        true_and]

/-- Entries that are well-formed under some limit are so under any that their nesting keeps to. -/
lemma areEntries_iff_nesting_le {limit other level : Nat} {entries : List (String × Json)}
    (h : ∀ key value, (key, value) ∈ entries → IsEntry limit level key value)
    (hlevel : level ≤ other) :
    (∀ key value, (key, value) ∈ entries → IsEntry other level key value) ↔
      level + nesting entries ≤ other := by
  match entries, h with
  | [], _ => simpa [nesting] using hlevel
  | (key, value) :: rest, h =>
    have hfirst := isEntry_iff_nesting_le (h key value List.mem_cons_self) hlevel
    have hothers : ∀ key value, (key, value) ∈ rest → IsEntry limit level key value :=
      fun key' value' hmem => h key' value' (List.mem_cons_of_mem _ hmem)
    have hrest := areEntries_iff_nesting_le hothers hlevel
    have hsplit : level + nesting ((key, value) :: rest) ≤ other ↔
        level + entryNesting key value ≤ other ∧ level + nesting rest ≤ other := by
      rw [nesting]
      omega
    rw [hsplit, ← hfirst, ← hrest]
    constructor
    · intro hall
      exact ⟨hall key value List.mem_cons_self,
        fun key' value' hmem => hall key' value' (List.mem_cons_of_mem _ hmem)⟩
    · rintro ⟨hentry, hothers⟩ key' value' hmem
      rcases List.mem_cons.mp hmem with heq | hmem
      · cases heq
        exact hentry
      · exact hothers key' value' hmem

/-- A member that is well-formed under some limit is so under any that its nesting keeps to. -/
lemma isMember_iff_nesting_le {limit other level : Nat} {member : Json}
    (h : IsMember limit (level + 1) member) :
    IsMember other (level + 1) member ↔ level + 1 + memberNesting member ≤ other := by
  match member, h with
  | .object entries, h =>
    obtain ⟨_, heq, hne, hdocument⟩ := isMember_iff.mp h
    obtain rfl := Json.object.inj heq
    have hentries := (isDocument_iff.mp hdocument).2
    rw [isMember_iff, memberNesting]
    simp only [Json.object.injEq, exists_eq_left', ne_eq, hne, not_false_eq_true, true_and,
      isDocument_iff]
    constructor
    · rintro ⟨hlevel, hall⟩
      exact (areEntries_iff_nesting_le hentries hlevel).mp hall
    · intro hle
      have hlevel : level + 1 ≤ other := by omega
      exact ⟨hlevel, (areEntries_iff_nesting_le hentries hlevel).mpr hle⟩

/-- Members that are well-formed under some limit are so under any that their nesting keeps to. -/
lemma areMembers_iff_nesting_le {limit other level : Nat} {items : List Json}
    (h : ∀ item ∈ items, IsMember limit (level + 1) item) (hlevel : level ≤ other) :
    (∀ item ∈ items, IsMember other (level + 1) item) ↔
      items = [] ∨ level + membersNesting items + 1 ≤ other := by
  match items, h with
  | [], _ => simp
  | member :: rest, h =>
    obtain ⟨hmember, hothers⟩ := List.forall_mem_cons.mp h
    have hfirst : IsMember other (level + 1) member ↔ level + 1 + memberNesting member ≤ other :=
      isMember_iff_nesting_le hmember
    have hrest := areMembers_iff_nesting_le hothers hlevel
    rw [List.forall_mem_cons, hfirst, hrest, or_iff_right (List.cons_ne_nil _ _), membersNesting]
    constructor
    · rintro ⟨hle, rfl | hle'⟩
      · rw [membersNesting]
        omega
      · omega
    · intro hle
      exact ⟨by omega, .inr (by omega)⟩

end

/-- Whether a document that is well-formed under some limit is so under another one, its nesting
alone tells. -/
lemma isDocument_iff_nesting_le {other : Nat} (h : IsDocument limit level entries) :
    IsDocument other level entries ↔ level + nesting entries ≤ other := by
  obtain ⟨-, hentries⟩ := isDocument_iff.mp h
  rw [isDocument_iff]
  constructor
  · rintro ⟨hlevel, hall⟩
    exact (areEntries_iff_nesting_le hentries hlevel).mp hall
  · intro hle
    have hlevel : level ≤ other := by omega
    exact ⟨hlevel, (areEntries_iff_nesting_le hentries hlevel).mpr hle⟩

/-! ## Acceptance -/

/-- The conditions of a document with entries are joined without an error. -/
lemma exists_joinEntries (connective : Connective) (conditions : List Condition) :
    ∃ joined, joinEntries connective conditions = .ok joined := by
  match conditions with
  | [] => exact ⟨none, rfl⟩
  | [only] => exact ⟨some only, rfl⟩
  | first :: second :: rest => exact ⟨_, rfl⟩

/-- A filter document is compiled just if it is `null` or a well-formed document. -/
lemma exists_compileJoined_iff (connective : Connective) (filter : Json) :
    (∃ joined, compileJoined connective filter = .ok joined) ↔
      filter = .null ∨ ∃ entries, filter = .object entries ∧ IsDocument maxLevels 0 entries := by
  match filter with
  | .null => simp [compileJoined]
  | .object entries =>
    have hentries := exists_entryConditions_iff (Nat.zero_add maxLevels) entries
    simp only [reduceCtorEq, false_or, Json.object.injEq, exists_eq_left', isDocument_iff,
      Nat.zero_le, true_and, ← hentries]
    constructor
    · rintro ⟨joined, h⟩
      obtain ⟨conditions, hconditions, -⟩ := exists_of_bind_eq_ok h
      exact ⟨conditions, hconditions⟩
    · rintro ⟨conditions, hconditions⟩
      obtain ⟨joined, hjoined⟩ := exists_joinEntries connective conditions
      refine ⟨joined, ?_⟩
      rw [compileJoined, hconditions]
      exact hjoined
  | .bool _ | .number _ | .string _ | .array _ => simp [compileJoined]

/-- A document with a number of connectives nested in it, each beside another entry and another
member. -/
def nestedDocument : Nat → List (String × Json)
  | 0 => [("age", .object [("$in", .array [.number (.int 20), .null])])]
  | depth + 1 =>
    [("people.name", .array []),
      ("$or", .array [.object [("alive", .bool true)], .object (nestedDocument depth)])]

/-- A document that is nested within a limit is well-formed under it. -/
lemma isDocument_nestedDocument {depth : Nat} (hdepth : level + depth ≤ limit) :
    IsDocument limit level (nestedDocument depth) := by
  induction depth generalizing level with
  | zero =>
    refine .entries hdepth fun key value hmem => ?_
    obtain ⟨rfl, rfl⟩ := Prod.mk.inj (List.mem_singleton.mp hmem)
    exact .field (by decide) (by decide +kernel) (.oneOf (by simp) (by decide))
  | succ depth ih =>
    refine .entries (by omega) fun key value hmem => ?_
    rcases List.mem_cons.mp hmem with heq | hlast
    · obtain ⟨rfl, rfl⟩ := Prod.mk.inj heq
      exact .field (by decide) (by decide +kernel) (.list [])
    · obtain ⟨rfl, rfl⟩ := Prod.mk.inj (List.mem_singleton.mp hlast)
      refine .group (.inr rfl) (by simp) fun item hitem => ?_
      rcases List.mem_cons.mp hitem with rfl | hdeeper
      · refine .document (by simp) (.entries (by omega) fun key value hmem => ?_)
        obtain ⟨rfl, rfl⟩ := Prod.mk.inj (List.mem_singleton.mp hmem)
        exact .field (by decide) (by decide +kernel) (.scalar rfl)
      · rw [List.mem_singleton.mp hdeeper]
        refine .document ?_ (ih (by omega))
        cases depth <;> simp [nestedDocument]

/-- Joined by either connective, a filter document is compiled just if it is `null` or well-formed
with no more than 32 levels; a document that is well-formed apart from its levels is compiled just
if no more than 32 connectives are nested in it, wherever they stand. -/
theorem compileJoined_ok_iff (connective : Connective) (filter : Json) :
    ((∃ joined, compileJoined connective filter = .ok joined) ↔
      filter = .null ∨ ∃ entries, filter = .object entries ∧ IsDocument 32 0 entries) ∧
    (∀ other, (∃ joined, compileJoined other filter = .ok joined) ↔
      ∃ joined, compileJoined connective filter = .ok joined) ∧
    ∀ limit entries, filter = .object entries → IsDocument limit 0 entries →
      ((∃ joined, compileJoined connective filter = .ok joined) ↔ nesting entries ≤ 32) := by
  have haccepted := exists_compileJoined_iff connective filter
  refine ⟨haccepted, fun other => ?_, ?_⟩
  · rw [haccepted, exists_compileJoined_iff other filter]
  · rintro limit entries rfl hdocument
    have hlevels : IsDocument maxLevels 0 entries ↔ 0 + nesting entries ≤ 32 :=
      isDocument_iff_nesting_le hdocument
    rw [Nat.zero_add] at hlevels
    simp only [haccepted, reduceCtorEq, false_or, Json.object.injEq, exists_eq_left', hlevels]

/-- Thirty-two levels are compiled and thirty-three are not, whatever stands beside them. -/
theorem compileJoined_nestedDocument :
    (∃ joined, compileJoined .or (.object (nestedDocument 32)) = .ok joined) ∧
      ¬ ∃ joined, compileJoined .or (.object (nestedDocument 33)) = .ok joined := by
  have hthirtyTwo : IsDocument 33 0 (nestedDocument 32) := isDocument_nestedDocument (by decide)
  have hthirtyThree : IsDocument 33 0 (nestedDocument 33) := isDocument_nestedDocument (by decide)
  constructor
  · exact ((compileJoined_ok_iff .or _).2.2 33 _ rfl hthirtyTwo).mpr (by decide +kernel)
  · rw [(compileJoined_ok_iff .or _).2.2 33 _ rfl hthirtyThree]
    decide +kernel

end Filter

end DocTables
