import DocTables.Proofs.Query.Edits
import DocTables.Proofs.Query.Spelling

/-!
# WHERE clauses determine their conditions

A condition that comes from a filter document or from calls on a query is read back from its WHERE
clause, whatever stands in its texts.  Only what its literals cannot tell is lost: a truth value is
read as `1` or `0`, a number as its text, and equality with `NULL` is the same as the test for it.
`Condition.written` says this of a condition; two conditions with the same clause agree in it.

The proof goes through tokens: the text of a condition spells its tokens
(`Condition.WellFormed.spells_text`), and its tokens are read as the condition
(`readCondition_tokens`).
-/

namespace DocTables

open Scanning LiteralCondition

/-! ## Reading tokens -/

/-- The token of a literal is read as the literal. -/
lemma literal?_token (literal : Literal) : literal? literal.token = some literal := by
  cases literal <;> rfl

/-- The symbol of a comparator that takes one value is read as the comparator. -/
lemma comparator?_symbol {comparator : Comparator} (h : comparator ≠ .oneOf) :
    comparator? comparator.symbol = some comparator := by
  cases comparator with
  | oneOf => exact absurd rfl h
  | _ => rfl

lemma connective?_keyword (connective : Connective) :
    connective? connective.keyword = some connective := by
  cases connective <;> rfl

/-- Literals with commas between them are read up to the parenthesis. -/
lemma readLiterals_intercalate (first : Scalar) (others : List Scalar) (rest : List SqlToken) :
    readLiterals ([SqlToken.comma].intercalate
        ((first :: others).map fun value => [value.written.token]) ++ .closing :: rest) =
      some ((first :: others).map Scalar.written, rest) := by
  induction others generalizing first with
  | nil =>
    rw [List.map_singleton, List.intercalate_singleton, List.singleton_append, readLiterals,
      literal?_token]
    rfl
  | cons second others ih =>
    have hothers := ih second
    rw [List.map_cons] at hothers
    rw [List.map_cons, List.map_cons, List.intercalate_cons_cons]
    simp only [List.cons_append, List.nil_append]
    rw [readLiterals, literal?_token, hothers]
    rfl

/-- The tokens of a comparison are read as the comparison, whatever follows. -/
lemma readComparison_tokens {comparison : Comparison}
    (htakes : comparison.comparator.Takes comparison.operand) (rest : List SqlToken) :
    readComparison (comparison.tokens ++ rest) =
      some (.comparison comparison.field comparison.comparator comparison.operand.written,
        rest) := by
  obtain ⟨field, comparator, operand⟩ := comparison
  rcases htakes with ⟨hcomparator, first, others, hoperand⟩ | ⟨hcomparator, scalar, hoperand⟩
  · cases hcomparator
    cases hoperand
    have hliterals := readLiterals_intercalate first others rest
    simp only [Comparison.tokens, Comparator.symbol, List.cons_append, List.append_assoc,
      List.nil_append]
    rw [readComparison, hliterals]
    rfl
  · cases hoperand
    by_cases hnull : scalar = .null ∧ (comparator = .eq ∨ comparator = .ne)
    · obtain ⟨rfl, hequality⟩ := hnull
      rcases hequality with rfl | rfl
      · rfl
      · rfl
    · rw [tokens_value hnull]
      simp only [List.cons_append, List.nil_append]
      rw [readComparison, comparator?_symbol hcomparator, literal?_token]
      rfl

/-- Lists with a separator between them are the first one, and the others with the separator before
each. -/
lemma intercalate_eq_append_flatMap {α : Type} (separator : α) (first : List α)
    (others : List (List α)) :
    [separator].intercalate (first :: others) = first ++ others.flatMap (separator :: ·) := by
  induction others generalizing first with
  | nil => rw [List.intercalate_singleton, List.flatMap_nil, List.append_nil]
  | cons second others ih =>
    rw [List.intercalate_cons_cons, ih, List.flatMap_cons, List.append_assoc]
    rfl

/-- Members that are each read as they should be are read one after the other. -/
lemma readMembers_flatMap (connective : Connective) {members : List Condition}
    (hmembers : ∀ member ∈ members, ∀ bound rest, member.tokens.length ≤ bound →
      readCondition bound (member.tokens ++ rest) = some (member.written, rest))
    (bound : Nat) (rest : List SqlToken)
    (hbound : (members.flatMap fun member =>
      SqlToken.word connective.keyword :: member.tokens).length < bound) :
    readMembers bound connective
      ((members.flatMap fun member => SqlToken.word connective.keyword :: member.tokens) ++
        .closing :: rest) = some (members.map Condition.written, rest) := by
  induction members generalizing bound with
  | nil =>
    cases bound with
    | zero => exact absurd hbound (Nat.not_lt_zero _)
    | succ bound => rfl
  | cons first others ih =>
    -- the keyword before each member is the token that pays for going one level down
    obtain ⟨hfirst, hothers⟩ := List.forall_mem_cons.mp hmembers
    rw [List.flatMap_cons, List.length_append, List.length_cons] at hbound
    cases bound with
    | zero => exact absurd hbound (Nat.not_lt_zero _)
    | succ bound =>
      rw [List.flatMap_cons, List.append_assoc, List.cons_append, readMembers, if_pos rfl,
        hfirst bound _ (by omega)]
      simp only [ih hothers bound (by omega)]
      rfl

/-- A comparison begins with its field. -/
lemma exists_tokens_eq_cons (comparison : Comparison) :
    ∃ rest, comparison.tokens = .word comparison.field :: rest := by
  unfold Comparison.tokens
  split <;> exact ⟨_, rfl⟩

/-- A list of two elements or more begins with two of them. -/
lemma exists_cons_cons_of_two_le_length {α : Type} {l : List α} (h : 2 ≤ l.length) :
    ∃ first second others, l = first :: second :: others := by
  obtain ⟨first, tail, rfl⟩ := List.exists_cons_of_length_pos (Nat.lt_of_lt_of_le Nat.zero_lt_two h)
  obtain ⟨second, others, rfl⟩ := List.exists_cons_of_length_pos (Nat.le_of_succ_le_succ h)
  exact ⟨first, second, others, rfl⟩

/-- The tokens of a condition are read as what it is written as, whatever follows. -/
lemma readCondition_tokens {condition : Condition} (h : condition.WellFormed) :
    ∀ bound rest, condition.tokens.length ≤ bound →
      readCondition bound (condition.tokens ++ rest) = some (condition.written, rest) := by
  -- for every bound and rest: a member is read under a smaller bound, with its siblings after it
  induction h with
  | @comparison c hpath htakes =>
    intro bound rest hbound
    obtain ⟨others, hothers⟩ := exists_tokens_eq_cons c
    rw [Condition.tokens] at hbound ⊢
    cases bound with
    | zero =>
      rw [hothers] at hbound
      exact absurd hbound (Nat.not_succ_le_zero _)
    | succ bound =>
      have hread := readComparison_tokens htakes rest
      rw [hothers, List.cons_append] at hread ⊢
      rw [readCondition, hread]
      · rfl
      · rintro rest' ⟨⟩
  | @group connective members hlength hmembers ih =>
    intro bound rest hbound
    obtain ⟨first, second, others, rfl⟩ := exists_cons_cons_of_two_le_length hlength
    obtain ⟨hfirst, hrest⟩ := List.forall_mem_cons.mp ih
    have htokens : Condition.tokens (.group connective (first :: second :: others)) =
        .opening :: (first.tokens ++ ((second :: others).flatMap fun member =>
          SqlToken.word connective.keyword :: member.tokens) ++ [.closing]) := by
      rw [Condition.tokens, Condition.tokenLists_eq_map, List.map_cons,
        intercalate_eq_append_flatMap, List.flatMap_map]
    rw [htokens] at hbound ⊢
    cases bound with
    | zero => exact absurd hbound (Nat.not_succ_le_zero _)
    | succ bound =>
      rw [List.length_cons, List.length_append, List.length_append, List.length_singleton]
        at hbound
      have hfirstRead := hfirst bound (((second :: others).flatMap fun member =>
        SqlToken.word connective.keyword :: member.tokens) ++ .closing :: rest) (by omega)
      have hrestRead := readMembers_flatMap connective hrest bound rest (by omega)
      simp only [List.flatMap_cons, List.cons_append, List.append_assoc, List.nil_append]
        at hfirstRead hrestRead ⊢
      rw [readCondition, hfirstRead]
      simp only [connective?_keyword, hrestRead, Option.map_some]
      rw [Condition.written, Condition.writtens_eq_map, List.map_cons]
      rfl

/-! ## Clauses -/

/-- A condition that has the form is read back from its WHERE clause. -/
lemma ofClause?_of_wellFormed {condition : Condition} (h : condition.WellFormed) :
    ofClause? condition.clause = some condition.written := by
  have htext := h.spells_text
  have hread := readCondition_tokens h
  cases condition with
  | comparison c =>
    have hclause : sqlTokens? (Condition.clause (.comparison c)) =
        some (.opening :: (c.tokens ++ [.closing])) := (spells_parenthesized htext).sqlTokens?
    have hlength : c.tokens.length ≤ (c.tokens ++ [SqlToken.closing]).length := by
      rw [List.length_append]
      omega
    have hinner := hread _ [.closing] hlength
    rw [Condition.tokens] at hinner
    rw [ofClause?, hclause]
    simp only [List.length_cons]
    rw [readCondition, hinner]
  | group connective members =>
    have hclause : sqlTokens? (Condition.clause (.group connective members)) =
        some (Condition.tokens (.group connective members)) := htext.sqlTokens?
    have hwhole := hread _ [] (Nat.le_refl _)
    rw [List.append_nil] at hwhole
    rw [ofClause?, hclause]
    simp only [hwhole]

/-! ## Structure -/

/-- What a condition says apart from its operands. -/
inductive Skeleton where
  /-- A comparison of a field with something. -/
  | comparison (field : String) (comparator : Comparator)
  /-- Several conditions joined by one connective. -/
  | group (connective : Connective) (members : List Skeleton)

mutual

/-- The skeleton of a condition. -/
def Condition.skeleton : Condition → Skeleton
  | .comparison c => .comparison c.field c.comparator
  | .group connective members => .group connective (Condition.skeletons members)

/-- The skeletons of conditions. -/
def Condition.skeletons : List Condition → List Skeleton
  | [] => []
  | member :: rest => member.skeleton :: Condition.skeletons rest

end

mutual

/-- The skeleton of a condition on literals. -/
def LiteralCondition.skeleton : LiteralCondition → Skeleton
  | .comparison field comparator _ => .comparison field comparator
  | .group connective members => .group connective (LiteralCondition.skeletons members)

/-- The skeletons of conditions on literals. -/
def LiteralCondition.skeletons : List LiteralCondition → List Skeleton
  | [] => []
  | member :: rest => member.skeleton :: LiteralCondition.skeletons rest

end

mutual

/-- Writing a condition keeps its skeleton. -/
lemma Condition.skeleton_written (condition : Condition) :
    condition.written.skeleton = condition.skeleton := by
  match condition with
  | .comparison c => rfl
  | .group connective members =>
    rw [Condition.written, LiteralCondition.skeleton, Condition.skeleton,
      Condition.skeletons_writtens members]

/-- Writing conditions keeps their skeletons. -/
lemma Condition.skeletons_writtens (conditions : List Condition) :
    LiteralCondition.skeletons (Condition.writtens conditions) =
      Condition.skeletons conditions := by
  match conditions with
  | [] => rfl
  | first :: rest =>
    rw [Condition.writtens, LiteralCondition.skeletons, Condition.skeletons,
      Condition.skeleton_written first, Condition.skeletons_writtens rest]

end

/-! ## The conditions of documents and queries -/

/-- The conditions that come about: those of filter documents, and those that chains of calls
collect or fix in a query. -/
inductive Condition.Arises : Condition → Prop
  /-- From a filter document. -/
  | compiled {connective : Connective} {filter : Json} {condition : Condition}
    (h : Filter.compileJoined connective filter = .ok (some condition)) : Arises condition
  /-- From a chain of calls. -/
  | called {table : String} {calls : List QueryCall} {start query : Query} {condition : Condition}
    (hstart : Query.ofTable table = .ok start) (hcalls : start.callAll calls = .ok query)
    (h : query.condition = some condition ∨ query.whereClause = some condition) : Arises condition

/-- The conditions that come about have the form. -/
lemma Condition.Arises.wellFormed {condition : Condition} (h : condition.Arises) :
    condition.WellFormed := by
  cases h with
  | compiled h => exact Filter.wellFormed_of_compileJoined h
  | called hstart hcalls h =>
    have hquery := (Query.wellFormed_of_ofTable hstart).callAll hcalls
    rcases h with h | h
    · exact hquery.collected _ h
    · exact hquery.collected _ (hquery.condition_of_whereClause h)

/-- A filter document with quote marks, parentheses and connectives in its texts. -/
def quotedTexts : Json :=
  .object [
    ("$or", .array [.object [("name", .string "x\x27) OR (1 = 1")],
      .object [("age", .object [("$in", .array [.bool true, .string "\x27, AND"])])]]),
    ("email", .null)]

/-- A condition that comes about is read back from its WHERE clause as what it is written as; no
operand has a say in the structure that is read; and another condition with the same clause is
written as the same. -/
theorem ofClause?_clause {condition : Condition} (h : condition.Arises) :
    ofClause? condition.clause = some condition.written ∧
      (ofClause? condition.clause).map LiteralCondition.skeleton = some condition.skeleton ∧
      ∀ other : Condition, other.Arises → other.clause = condition.clause →
        other.written = condition.written := by
  have hread := ofClause?_of_wellFormed h.wellFormed
  refine ⟨hread, ?_, fun other hother hclause => ?_⟩
  · rw [hread, Option.map_some, condition.skeleton_written]
  · have hotherRead := ofClause?_of_wellFormed hother.wellFormed
    rw [hclause, hread] at hotherRead
    exact (Option.some.inj hotherRead).symm

/-- The texts in the document are told from the clause around them. -/
theorem ofClause?_quotedTexts :
    ∃ condition : Condition, Filter.compile quotedTexts = .ok (some condition) ∧
      condition.clause = "((name = \x27x\x27\x27) OR (1 = 1\x27 OR " ++
        "age IN (1,\x27\x27\x27, AND\x27)) AND email IS NULL)" ∧
      ofClause? condition.clause = some condition.written := by
  have hcompiled : ((Filter.compile quotedTexts).toOption.join.map Condition.clause) =
      some ("((name = \x27x\x27\x27) OR (1 = 1\x27 OR " ++
        "age IN (1,\x27\x27\x27, AND\x27)) AND email IS NULL)") := by
    decide +kernel
  obtain ⟨condition, hcondition, hclause⟩ := Option.map_eq_some_iff.mp hcompiled
  have hresult := eq_ok_of_toOption_join hcondition
  exact ⟨condition, hresult, hclause, (ofClause?_clause (.compiled hresult)).1⟩

end DocTables
