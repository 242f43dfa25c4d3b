import DocTables.Proofs.Query.Compilation

/-!
# The form of conditions

However a condition comes about, its comparisons were checked when they were made, and its groups
have at least two members: a single member stands for itself, and two conditions of which both must
hold are joined in one flat group.  The conditions of filter documents have this form.
-/

namespace DocTables

/-! ## Conditions -/

namespace Condition

/-- Every comparison names a column and has an operand that suits it; every group has two members or
more. -/
inductive WellFormed : Condition → Prop
  /-- A comparison of a column with an operand that the comparator takes. -/
  | comparison {c : Comparison} (hpath : isColumnPath c.field = true)
    (htakes : c.comparator.Takes c.operand) : WellFormed (.comparison c)
  /-- A group of two or more. -/
  | group {connective : Connective} {members : List Condition} (hlength : 2 ≤ members.length)
    (hmembers : ∀ member ∈ members, WellFormed member) : WellFormed (.group connective members)

variable {connective : Connective} {condition first second : Condition}
  {conditions : List Condition}

/-- Joining keeps the form. -/
lemma wellFormed_of_joined (h : joined connective conditions = .ok condition)
    (hconditions : ∀ member ∈ conditions, member.WellFormed) : condition.WellFormed := by
  match conditions, h with
  | [only], h =>
    cases h
    exact hconditions _ List.mem_cons_self
  | first :: second :: rest, h =>
    cases h
    refine .group ?_ hconditions
    rw [List.length_cons, List.length_cons]
    omega

/-- There is always something that a condition joins. -/
lemma WellFormed.length_conjuncts_pos (h : condition.WellFormed) :
    0 < condition.conjuncts.length := by
  cases h with
  | comparison hpath htakes => exact Nat.zero_lt_one
  | @group connective members hlength hmembers =>
    cases connective with
    | and => exact Nat.lt_of_lt_of_le Nat.zero_lt_two hlength
    | or => exact Nat.zero_lt_one

/-- What a condition joins has the form. -/
lemma WellFormed.conjuncts (h : condition.WellFormed) :
    ∀ member ∈ condition.conjuncts, member.WellFormed := by
  have halone : ∀ member ∈ [condition], member.WellFormed := List.forall_mem_singleton.mpr h
  cases h with
  | comparison hpath htakes => exact halone
  | @group connective members hlength hmembers =>
    cases connective with
    | and => exact hmembers
    | or => exact halone

/-- Two conditions of which both must hold are a group of two or more. -/
lemma WellFormed.and (hfirst : first.WellFormed) (hsecond : second.WellFormed) :
    (first.and second).WellFormed := by
  refine .group ?_ fun member hmember => ?_
  · have hfirstLength := hfirst.length_conjuncts_pos
    have hsecondLength := hsecond.length_conjuncts_pos
    rw [List.length_append]
    omega
  · rcases List.mem_append.mp hmember with hmem | hmem
    · exact hfirst.conjuncts member hmem
    · exact hsecond.conjuncts member hmem

end Condition

/-! ## Filter documents -/

/-- A comparison that was made has the form. -/
lemma Comparison.wellFormed_of_make {field : String} {comparator : Comparator} {operand : Operand}
    {comparison : Comparison} (h : Comparison.make field comparator operand = .ok comparison) :
    (Condition.comparison comparison).WellFormed := by
  obtain ⟨rfl, hpath, htakes⟩ := Filter.eq_of_make h
  exact .comparison hpath htakes

namespace Filter

mutual

/-- The condition of an entry has the form. -/
lemma wellFormed_of_entryCondition {levels : Nat} {key : String} {value : Json}
    {condition : Condition} (h : entryCondition levels key value = .ok condition) :
    condition.WellFormed := by
  rcases exists_of_entryCondition h with
    ⟨connective, items, members, -, rfl, hmembers, hjoined⟩ | ⟨-, comparison, hcomparison, rfl⟩
  · exact Condition.wellFormed_of_joined hjoined (wellFormed_of_memberConditions hmembers)
  · rcases exists_of_fieldComparison hcomparison with
      ⟨_, _, _, _, -, -, -, hmake⟩ | ⟨-, hmake⟩
    · exact Comparison.wellFormed_of_make hmake
    · exact Comparison.wellFormed_of_make hmake

/-- The conditions of entries have the form. -/
lemma wellFormed_of_entryConditions {levels : Nat} {entries : List (String × Json)}
    {conditions : List Condition} (h : entryConditions levels entries = .ok conditions) :
    ∀ condition ∈ conditions, condition.WellFormed := by
  match entries, h with
  | [], h =>
    cases h
    exact List.forall_mem_nil _
  | (key, value) :: rest, h =>
    obtain ⟨first, others, hfirst, hothers, rfl⟩ := exists_of_entryConditions h
    exact List.forall_mem_cons.mpr
      ⟨wellFormed_of_entryCondition hfirst, wellFormed_of_entryConditions hothers⟩

/-- The condition of a member has the form. -/
lemma wellFormed_of_memberCondition {levels : Nat} {connective : Connective} {member : Json}
    {condition : Condition} (h : memberCondition levels connective member = .ok condition) :
    condition.WellFormed := by
  obtain ⟨entries, below, conditions, rfl, rfl, hconditions, hjoined⟩ := exists_of_memberCondition h
  exact Condition.wellFormed_of_joined hjoined (wellFormed_of_entryConditions hconditions)

/-- The conditions of members have the form. -/
lemma wellFormed_of_memberConditions {levels : Nat} {connective : Connective} {members : List Json}
    {conditions : List Condition}
    (h : memberConditions levels connective members = .ok conditions) :
    ∀ condition ∈ conditions, condition.WellFormed := by
  match members, h with
  | [], h =>
    cases h
    exact List.forall_mem_nil _
  | member :: rest, h =>
    obtain ⟨first, others, hfirst, hothers, rfl⟩ := exists_of_memberConditions h
    exact List.forall_mem_cons.mpr
      ⟨wellFormed_of_memberCondition hfirst, wellFormed_of_memberConditions hothers⟩

end

/-- The condition of a filter document has the form. -/
lemma wellFormed_of_compileJoined {connective : Connective} {filter : Json} {condition : Condition}
    (h : compileJoined connective filter = .ok (some condition)) : condition.WellFormed := by
  obtain ⟨entries, conditions, rfl, hconditions, hjoined⟩ := exists_of_compileJoined_some h
  exact Condition.wellFormed_of_joined hjoined (wellFormed_of_entryConditions hconditions)

end Filter

end DocTables
