import DocTables.Proofs.Name
import DocTables.Proofs.Query.Reading
import DocTables.Proofs.Query.WellFormed

/-!
# The texts of conditions spell their tokens

A condition is written as a condition on literals, of which the tokens are plain; that its text is
read as these tokens is shown for every piece of it: names of columns, literals, comparisons, and
groups.  Only conditions that have the form are concerned, since a name that is no column path could
be read as anything.
-/

namespace DocTables

open Scanning

/-! ## What a condition is written as -/

/-- The literal that a scalar is written as. -/
def Scalar.written : Scalar → Literal
  | .null => .null
  | .bool b => .number (if b then "1" else "0")
  | .int n => .number (toString n)
  | .float x =>
    match Scalar.numberLayout.text? x with
    | some digits => .number digits
    | none => .null
  | .text s => .text s

/-- The literals that an operand is written as. -/
def Operand.written : Operand → LiteralOperand
  | .value v => .value v.written
  | .list values => .list (values.map Scalar.written)

namespace Condition

mutual

/-- The condition on literals that a condition is written as. -/
def written : Condition → LiteralCondition
  | .comparison c => .comparison c.field c.comparator c.operand.written
  | .group connective members => .group connective (writtens members)

/-- The conditions on literals that conditions are written as. -/
def writtens : List Condition → List LiteralCondition
  | [] => []
  | member :: rest => written member :: writtens rest

end

end Condition

/-! ## Tokens -/

/-- The token of a literal. -/
def Literal.token : Literal → SqlToken
  | .null => .word "NULL"
  | .number digits => .number digits
  | .text content => .text content

/-- The tokens of a comparison. -/
def Comparison.tokens (comparison : Comparison) : List SqlToken :=
  match comparison.comparator, comparison.operand with
  | .eq, .value .null => [.word comparison.field, .word "IS", .word "NULL"]
  | .ne, .value .null => [.word comparison.field, .word "IS", .word "NOT", .word "NULL"]
  | comparator, .value value =>
    [.word comparison.field, .sign comparator.symbol, value.written.token]
  | comparator, .list values =>
    .word comparison.field :: .word comparator.symbol :: .opening ::
      ([.comma].intercalate (values.map fun value => [value.written.token]) ++ [.closing])

namespace Condition

mutual

/-- The tokens of a condition. -/
def tokens : Condition → List SqlToken
  | .comparison c => c.tokens
  | .group connective members =>
    .opening :: ([SqlToken.word connective.keyword].intercalate (tokenLists members) ++ [.closing])

/-- The tokens of conditions, one by one. -/
def tokenLists : List Condition → List (List SqlToken)
  | [] => []
  | member :: rest => tokens member :: tokenLists rest

end

end Condition

/-! ## Spelling -/

/-- A keyword between blanks separates. -/
lemma separates_keyword {word : String} (h : Spells word [.word word]) :
    Separates (" " ++ word ++ " ") [.word word] :=
  separates_blank.around h separates_blank

/-- Text in parentheses. -/
lemma spells_parenthesized {text : String} {tokens : List SqlToken} (h : Spells text tokens) :
    Spells ("(" ++ text ++ ")") (.opening :: (tokens ++ [.closing])) := by
  have hopen := spells_empty.append separates_opening h
  have hclose := hopen.append separates_closing spells_empty
  simpa only [String.empty_append, String.append_empty, List.nil_append, List.append_nil,
    List.singleton_append, List.cons_append] using hclose

/-- The keywords of conditions. -/
lemma spells_keyword {word : String} (h : word ∈ ["AND", "OR", "IS", "NOT", "NULL", "IN"]) :
    Spells word [.word word] := by
  simp only [List.mem_cons, List.not_mem_nil, or_false] at h
  rcases h with rfl | rfl | rfl | rfl | rfl | rfl
  all_goals exact spells_word rfl rfl (List.all_eq_true.mp rfl)

/-- The literal of a scalar is one token. -/
lemma Scalar.spells_literal (value : Scalar) : Spells value.literal [value.written.token] := by
  have hnull : Spells "NULL" [.word "NULL"] := spells_keyword (by simp)
  cases value with
  | null => exact hnull
  | bool b =>
    have hdigit : ∀ digit ∈ ["0", "1"], Spells digit [.number digit] := by
      intro digit hdigit
      rcases List.mem_pair.mp hdigit with rfl | rfl
      all_goals exact spells_number ⟨by decide, List.all_eq_true.mp rfl⟩
    cases b
    · exact hdigit "0" (by simp)
    · exact hdigit "1" (by simp)
  | int n => exact spells_number (isNumeral_toString n).isNumberText
  | float x =>
    cases htext : Scalar.numberLayout.text? x with
    | none =>
      simp only [Scalar.literal, Scalar.written, htext, Option.getD_none]
      exact hnull
    | some digits =>
      simp only [Scalar.literal, Scalar.written, htext, Option.getD_some]
      exact spells_number (DecimalLayout.isNumeral_of_text? rfl htext).isNumberText
  | text s => exact spells_quoted s

/-- The path of a column is one word. -/
lemma spells_columnPath {path : String} (h : isColumnPath path = true) :
    Spells path [.word path] := by
  obtain ⟨c, rest, hpath, hc, hrest⟩ := exists_of_isColumnPath h
  refine spells_word hpath hc fun d hd => ?_
  rw [isWordChar, Bool.or_eq_true, decide_eq_true_iff]
  exact hrest d hd

/-- The sign of a comparator that takes one value. -/
lemma Comparator.spells_symbol {comparator : Comparator} (h : comparator ≠ .oneOf) :
    Spells comparator.symbol [.sign comparator.symbol] := by
  cases comparator with
  | oneOf => exact absurd rfl h
  | _ => exact spells_sign rfl rfl (List.all_eq_true.mp rfl)

/-- A test for `NULL` by a keyword or two. -/
lemma spells_nullTest {field : String} (hfield : Spells field [.word field]) :
    Spells (field ++ " IS NULL") [.word field, .word "IS", .word "NULL"] ∧
      Spells (field ++ " IS NOT NULL") [.word field, .word "IS", .word "NOT", .word "NULL"] := by
  have his : Separates (" " ++ "IS" ++ " ") [.word "IS"] :=
    separates_keyword (spells_keyword (by simp))
  have hnot : Separates (" " ++ "NOT" ++ " ") [.word "NOT"] :=
    separates_keyword (spells_keyword (by simp))
  have hnull : Spells "NULL" [.word "NULL"] := spells_keyword (by simp)
  have hisNot : Separates (" " ++ "IS" ++ (" " ++ "NOT" ++ " ")) [.word "IS", .word "NOT"] :=
    separates_blank.around (spells_keyword (by simp)) hnot
  constructor
  · have htext : field ++ " IS NULL" = field ++ (" " ++ "IS" ++ " ") ++ "NULL" := by
      rw [String.append_assoc]
      rfl
    rw [htext]
    exact hfield.append his hnull
  · have htext : field ++ " IS NOT NULL" =
        field ++ (" " ++ "IS" ++ (" " ++ "NOT" ++ " ")) ++ "NULL" := by
      rw [String.append_assoc]
      rfl
    rw [htext]
    exact hfield.append hisNot hnull

/-- Equality with one of several values. -/
lemma spells_oneOf {field : String} (hfield : Spells field [.word field]) (values : List Scalar) :
    Spells (Comparison.text ⟨field, .oneOf, .list values⟩)
      (Comparison.tokens ⟨field, .oneOf, .list values⟩) := by
  have hopening : Separates (" " ++ "" ++ "(") [.opening] :=
    separates_blank.around spells_empty separates_opening
  have hin : Separates (" " ++ "IN" ++ (" " ++ "" ++ "(")) [.word "IN", .opening] :=
    separates_blank.around (spells_keyword (by simp)) hopening
  have hvalues : List.Forall₂ Spells (values.map Scalar.literal)
      (values.map fun value => [value.written.token]) := by
    rw [List.forall₂_map_left_iff, List.forall₂_map_right_iff, List.forall₂_same]
    exact fun value _ => value.spells_literal
  have hclause := (hfield.append hin (spells_intercalate separates_comma hvalues)).append
    separates_closing spells_empty
  have htext : Comparison.text ⟨field, .oneOf, .list values⟩ =
      field ++ (" " ++ "IN" ++ (" " ++ "" ++ "(")) ++ ",".intercalate (values.map Scalar.literal) ++
        ")" ++ "" := by
    rw [String.append_empty]
    simp only [Comparison.text, String.append_assoc]
    rfl
  rw [htext]
  simpa only [Comparison.tokens, Comparator.symbol, List.append_nil, List.append_assoc,
    List.cons_append, List.nil_append] using hclause

/-- The tokens of a comparison with one value that is no test for `NULL`. -/
lemma tokens_value {field : String} {comparator : Comparator} {scalar : Scalar}
    (hnull : ¬ (scalar = .null ∧ (comparator = .eq ∨ comparator = .ne))) :
    Comparison.tokens ⟨field, comparator, .value scalar⟩ =
      [.word field, .sign comparator.symbol, scalar.written.token] := by
  simp only [Comparison.tokens]
  split
  · rename_i hvalue
    exact absurd ⟨Operand.value.inj hvalue, .inl rfl⟩ hnull
  · rename_i hvalue
    exact absurd ⟨Operand.value.inj hvalue, .inr rfl⟩ hnull
  · rename_i value _ _ hvalue
    rw [Operand.value.inj hvalue]
  · rename_i hlist
    cases hlist

/-- A comparison with one value that is no test for `NULL`. -/
lemma spells_value {field : String} {comparator : Comparator} {scalar : Scalar}
    (hfield : Spells field [.word field]) (hcomparator : comparator ≠ .oneOf)
    (hnull : ¬ (scalar = .null ∧ (comparator = .eq ∨ comparator = .ne))) :
    Spells (Comparison.text ⟨field, comparator, .value scalar⟩)
      (Comparison.tokens ⟨field, comparator, .value scalar⟩) := by
  have hsign : Separates (" " ++ comparator.symbol ++ " ") [.sign comparator.symbol] :=
    separates_blank.around (Comparator.spells_symbol hcomparator) separates_blank
  have htext : Comparison.text ⟨field, comparator, .value scalar⟩ =
      field ++ (" " ++ comparator.symbol ++ " ") ++ scalar.literal := by
    simp only [Comparison.text]
    split
    · rename_i hvalue
      exact absurd ⟨Operand.value.inj hvalue, .inl rfl⟩ hnull
    · rename_i hvalue
      exact absurd ⟨Operand.value.inj hvalue, .inr rfl⟩ hnull
    · rename_i value _ _ hvalue
      rw [Operand.value.inj hvalue]
      simp only [String.append_assoc]
    · rename_i hlist
      cases hlist
  rw [htext, tokens_value hnull]
  exact hfield.append hsign scalar.spells_literal

/-- The text of a comparison spells its tokens. -/
lemma Comparison.spells_text {comparison : Comparison}
    (hpath : isColumnPath comparison.field = true)
    (htakes : comparison.comparator.Takes comparison.operand) :
    Spells comparison.text comparison.tokens := by
  obtain ⟨field, comparator, operand⟩ := comparison
  have hfield : Spells field [.word field] := spells_columnPath hpath
  rcases htakes with ⟨hcomparator, first, rest, hoperand⟩ | ⟨hcomparator, scalar, hoperand⟩
  · cases hcomparator
    cases hoperand
    exact spells_oneOf hfield (first :: rest)
  · cases hoperand
    by_cases hnull : scalar = .null ∧ (comparator = .eq ∨ comparator = .ne)
    · obtain ⟨rfl, hequality⟩ := hnull
      rcases hequality with rfl | rfl
      · exact (spells_nullTest hfield).1
      · exact (spells_nullTest hfield).2
    · exact spells_value hfield hcomparator hnull

namespace Condition

lemma texts_eq_map (conditions : List Condition) : texts conditions = conditions.map text := by
  induction conditions with
  | nil => rfl
  | cons first rest ih => rw [texts, ih, List.map_cons]

lemma tokenLists_eq_map (conditions : List Condition) :
    tokenLists conditions = conditions.map tokens := by
  induction conditions with
  | nil => rfl
  | cons first rest ih => rw [tokenLists, ih, List.map_cons]

lemma writtens_eq_map (conditions : List Condition) :
    writtens conditions = conditions.map written := by
  induction conditions with
  | nil => rfl
  | cons first rest ih => rw [writtens, ih, List.map_cons]

/-- The text of a condition spells its tokens. -/
lemma WellFormed.spells_text {condition : Condition} (h : condition.WellFormed) :
    Spells condition.text condition.tokens := by
  induction h with
  | comparison hpath htakes => exact Comparison.spells_text hpath htakes
  | @group connective members hlength hmembers ih =>
    have hkeyword : Separates (" " ++ connective.keyword ++ " ") [.word connective.keyword] := by
      cases connective
      · exact separates_keyword (spells_keyword (by simp [Connective.keyword]))
      · exact separates_keyword (spells_keyword (by simp [Connective.keyword]))
    have hall : List.Forall₂ Spells (members.map text) (members.map tokens) := by
      rw [List.forall₂_map_left_iff, List.forall₂_map_right_iff, List.forall₂_same]
      exact ih
    rw [text, tokens, texts_eq_map, tokenLists_eq_map]
    exact spells_parenthesized (spells_intercalate hkeyword hall)

end Condition

end DocTables
