import DocTables.Proofs.Query.Accumulation
import DocTables.Proofs.Query.ComparedFields
import DocTables.Proofs.Query.QueryByExample

/-!
# Membership and alternatives

That a field is one of several values can be said by the operator for it, or by an alternative with
one document for each value.  The operator is written with a list of literals, and a literal `NULL`
in it equals nothing; the alternative tests for `NULL`.  So the two are true of the same rows just
if `null` is not among the values; if it is, the operator misses the rows in which the column holds
nothing (`Filter.membership_iff_alternative`).

What a comparison says of a row is read off its text, by predicates of the three-valued logic of
statements (`StoredRow.predicateTruth`).  How a value that a column holds compares with a literal is
left open: it may depend on the kinds of both.
-/

namespace DocTables

/-! ## Comparisons on rows -/

namespace StoredRow

variable {α : Type} (relates : String → α → Literal → Bool) (row : StoredRow α)

/-- The truth of a comparison of a column with a literal by a sign: it is not known where there is
nothing to compare on one side. -/
def signTruth (sign column : String) (literal : Literal) : Truth :=
  match row column, literal with
  | none, _ => .unknown
  | some _, .null => .unknown
  | some held, literal => if relates sign held literal then .yes else .no

/-- The truth of a predicate.  A test for `NULL` is always true or false; a column is in a list if
it equals one of the literals there. -/
def predicateTruth : List SqlToken → Truth
  | [.word column, .word "IS", .word "NULL"] => if (row column).isNone then .yes else .no
  | [.word column, .word "IS", .word "NOT", .word "NULL"] =>
    if (row column).isNone then .no else .yes
  | .word column :: .word "IN" :: .opening :: rest =>
    match LiteralCondition.readLiterals rest with
    | some (literals, []) => Connective.or.join (literals.map (signTruth relates row "=" column))
    | _ => .unknown
  | [.word column, .sign sign, token] =>
    match LiteralCondition.literal? token with
    | some literal => signTruth relates row sign column literal
    | none => .unknown
  | _ => .unknown

/-- The truth of comparisons on a row, read off their texts. -/
def valuation : Valuation := fun field comparator operand =>
  match sqlTokens? (Comparison.text ⟨field, comparator, operand⟩) with
  | some tokens => predicateTruth relates row tokens
  | none => .unknown

variable {relates row} {field : String} {operand : Operand} {comparator : Comparator}

/-- The text of a comparison that was made says what its tokens say. -/
lemma valuation_eq_predicateTruth (hpath : isColumnPath field = true)
    (htakes : comparator.Takes operand) :
    valuation relates row field comparator operand =
      predicateTruth relates row (Comparison.tokens ⟨field, comparator, operand⟩) := by
  have hspells : Scanning.Spells (Comparison.text ⟨field, comparator, operand⟩)
      (Comparison.tokens ⟨field, comparator, operand⟩) := Comparison.spells_text hpath htakes
  rw [valuation, hspells.sqlTokens?]

/-- Membership in a list is the disjunction of equalities. -/
lemma valuation_oneOf (hpath : isColumnPath field = true) {values : List Scalar}
    (hne : values ≠ []) :
    valuation relates row field .oneOf (.list values) =
      Connective.or.join
        (values.map fun value => signTruth relates row "=" field value.written) := by
  obtain ⟨first, rest, rfl⟩ := List.exists_cons_of_ne_nil hne
  rw [valuation_eq_predicateTruth hpath (.inl ⟨rfl, first, rest, rfl⟩)]
  have hliterals := readLiterals_intercalate first rest []
  simp only [Comparison.tokens, Comparator.symbol, predicateTruth, hliterals, List.map_map]
  rfl

/-- Equality with `NULL` is the test for it. -/
lemma valuation_null (hpath : isColumnPath field = true) :
    valuation relates row field .eq (.value .null) = if (row field).isNone then .yes else .no :=
  valuation_eq_predicateTruth hpath (.inr ⟨by decide, _, rfl⟩)

/-- Equality with anything else is a comparison. -/
lemma valuation_value (hpath : isColumnPath field = true) {value : Scalar} (hne : value ≠ .null) :
    valuation relates row field .eq (.value value) =
      signTruth relates row "=" field value.written := by
  rw [valuation_eq_predicateTruth hpath (.inr ⟨by decide, _, rfl⟩),
    tokens_value fun hnull => hne hnull.1]
  simp only [predicateTruth, literal?_token]
  rfl

/-- An equality is only known to hold where the column holds something. -/
lemma isSome_of_signTruth {sign : String} {literal : Literal}
    (h : signTruth relates row sign field literal = .yes) : (row field).isSome = true := by
  unfold signTruth at h
  split at h
  · cases h
  · cases h
  · rename_i hheld _
    rw [hheld]
    rfl

end StoredRow

/-! ## Alternatives -/

/-- One of two holds just if the first or the second does. -/
lemma Truth.or_eq_yes_iff (first second : Truth) :
    first.or second = .yes ↔ first = .yes ∨ second = .yes := by
  cases first <;> cases second <;> decide

/-- A disjunction holds just if one of its members does. -/
lemma Connective.join_or_eq_yes_iff {truths : List Truth} :
    Connective.or.join truths = .yes ↔ .yes ∈ truths := by
  induction truths with
  | nil => exact iff_of_false Truth.noConfusion List.not_mem_nil
  | cons first rest ih =>
    change first.or (Connective.or.join rest) = .yes ↔ _
    rw [Truth.or_eq_yes_iff, ih, List.mem_cons, eq_comm]

namespace Filter

variable {field : String} {values : List Json}

/-- The document that asks for one of several values by the operator for it. -/
def memberDocument (field : String) (values : List Json) : Json :=
  .object [(field, .object [("$in", .array values)])]

/-- The document that asks for each of several values in an alternative. -/
def alternativeDocument (field : String) (values : List Json) : Json :=
  .object [("$or", .array (values.map fun value => .object [(field, value)]))]

/-- Equality of a field with a value. -/
def equality (field : String) (value : Json) : Condition :=
  .comparison ⟨field, .eq, .value (Scalar.ofJson value)⟩

/-- Membership of a field in a list of values. -/
def membership (field : String) (values : List Json) : Condition :=
  .comparison ⟨field, .oneOf, .list (values.map Scalar.ofJson)⟩

/-- The operator is compiled to a comparison with all values. -/
lemma compile_memberDocument (hpath : isColumnPath field = true) (hne : values ≠ [])
    (hscalars : ∀ value ∈ values, value.isScalar = true) :
    compile (memberDocument field values) = .ok (some (membership field values)) := by
  have hread : Operand.ofJson .oneOf (.array values) = .ok (.list (values.map Scalar.ofJson)) :=
    if_pos (List.all_eq_true.mpr hscalars)
  have hmake : Comparison.make field .oneOf (.list (values.map Scalar.ofJson)) =
      .ok ⟨field, .oneOf, .list (values.map Scalar.ofJson)⟩ := by
    obtain ⟨first, rest, rfl⟩ := List.exists_cons_of_ne_nil hne
    exact if_pos hpath
  have hspelled : fieldComparison field (.object [("$in", .array values)]) =
      Operand.ofJson .oneOf (.array values) >>= Comparison.make field .oneOf :=
    fieldComparison_operator .oneOf (.array values)
  rw [memberDocument, compile_of_field hpath, hspelled, hread]
  change (Comparison.make field .oneOf (.list (values.map Scalar.ofJson))).map _ = _
  rw [hmake]
  rfl

/-- A document of the alternative is compiled to the equality that it asks for. -/
lemma memberCondition_of_scalar {levels : Nat} {value : Json} (connective : Connective)
    (hpath : isColumnPath field = true) (hscalar : value.isScalar = true) :
    memberCondition (levels + 1) connective (.object [(field, value)]) =
      .ok (equality field value) := by
  have hmake : Comparison.make field .eq (.value (Scalar.ofJson value)) =
      .ok ⟨field, .eq, .value (Scalar.ofJson value)⟩ := if_pos hpath
  have hentry : entryCondition levels field value = .ok (equality field value) := by
    rw [entryCondition_of_field (isOperatorKey_of_isColumnPath hpath),
      fieldComparison_of_isScalar hscalar, hmake]
    rfl
  rw [memberCondition, entryConditions, hentry]
  rfl

/-- So are all of them, in order. -/
lemma memberConditions_of_scalars {levels : Nat} (connective : Connective)
    (hpath : isColumnPath field = true) (hscalars : ∀ value ∈ values, value.isScalar = true) :
    memberConditions (levels + 1) connective (values.map fun value => .object [(field, value)]) =
      .ok (values.map (equality field)) := by
  induction values with
  | nil => rfl
  | cons first rest ih =>
    obtain ⟨hfirst, hrest⟩ := List.forall_mem_cons.mp hscalars
    rw [List.map_cons, memberConditions, memberCondition_of_scalar connective hpath hfirst,
      ih hrest]
    rfl

/-- The alternative is compiled to the disjunction of the equalities. -/
lemma exists_compile_alternativeDocument (hpath : isColumnPath field = true) (hne : values ≠ [])
    (hscalars : ∀ value ∈ values, value.isScalar = true) :
    ∃ alternative, compile (alternativeDocument field values) = .ok (some alternative) ∧
      Condition.joined .or (values.map (equality field)) = .ok alternative := by
  have hmembers : memberConditions (31 + 1) .or
      (values.map fun value => .object [(field, value)]) = .ok (values.map (equality field)) :=
    memberConditions_of_scalars .or hpath hscalars
  obtain ⟨alternative, hjoined⟩ : ∃ alternative,
      Condition.joined .or (values.map (equality field)) = .ok alternative := by
    rwa [exists_joined_iff, Ne, List.map_eq_nil_iff]
  have hempty : (values.map fun value => Json.object [(field, value)]).isEmpty = false := by
    rwa [List.isEmpty_eq_false_iff, Ne, List.map_eq_nil_iff]
  have hentry : entryCondition maxLevels "$or"
      (.array (values.map fun value => .object [(field, value)])) = .ok alternative := by
    have hkey : Connective.ofKey? "$or" = some .or := rfl
    rw [entryCondition, hkey]
    simp only [hempty, Bool.false_eq_true, if_false]
    change memberConditions 32 .or _ >>= _ = _
    rw [hmembers]
    exact hjoined
  refine ⟨alternative, ?_, hjoined⟩
  rw [alternativeDocument, compile, compileJoined, entryConditions, hentry]
  rfl

variable {α : Type} {relates : String → α → Literal → Bool} {row : StoredRow α}

/-- Among the values that can stand in a list, only `null` is stored as `NULL`. -/
lemma ofJson_eq_null_iff {value : Json} (hscalar : value.isScalar = true) :
    Scalar.ofJson value = .null ↔ value = .null := by
  refine ⟨fun h => ?_, fun h => h ▸ rfl⟩
  cases value with
  | null => rfl
  | bool b => cases h
  | number n =>
    rw [Scalar.ofJson] at h
    split at h <;> cases h
  | string s => cases h
  | array items => cases hscalar
  | object entries => cases hscalar

/-- Equality with a value other than `null` has the truth that the value's literal has in a list. -/
lemma eval_equality_of_ne_null (hpath : isColumnPath field = true) {value : Json}
    (hscalar : value.isScalar = true) (hne : value ≠ .null) :
    (equality field value).eval (row.valuation relates) =
      row.signTruth relates "=" field (Scalar.ofJson value).written :=
  StoredRow.valuation_value hpath fun h => hne ((ofJson_eq_null_iff hscalar).mp h)

/-- Equality with `null` holds just in the rows where the column holds nothing. -/
lemma eval_equality_null (hpath : isColumnPath field = true) :
    (equality field .null).eval (row.valuation relates) =
      if (row field).isNone then .yes else .no :=
  StoredRow.valuation_null hpath

/-- A value's literal in a list is met by the rows that equality with the value is true of and in
which the column holds something. -/
lemma signTruth_eq_yes_iff (hpath : isColumnPath field = true) {value : Json}
    (hscalar : value.isScalar = true) :
    row.signTruth relates "=" field (Scalar.ofJson value).written = .yes ↔
      (equality field value).eval (row.valuation relates) = .yes ∧ (row field).isSome = true := by
  by_cases hnull : value = .null
  · subst hnull
    rw [eval_equality_null hpath]
    cases hheld : row field with
    | none => simp [StoredRow.signTruth, hheld]
    | some held => simp [StoredRow.signTruth, hheld, Scalar.ofJson, Scalar.written]
  · rw [eval_equality_of_ne_null hpath hscalar hnull]
    exact ⟨fun h => ⟨h, StoredRow.isSome_of_signTruth h⟩, And.left⟩

/-- Membership is the disjunction of what the literals of the values say. -/
lemma eval_membership (hpath : isColumnPath field = true) (hne : values ≠ []) :
    (membership field values).eval (row.valuation relates) =
      Connective.or.join (values.map fun value =>
        row.signTruth relates "=" field (Scalar.ofJson value).written) := by
  have hoperand : values.map Scalar.ofJson ≠ [] := fun h => hne (List.map_eq_nil_iff.mp h)
  rw [membership, Condition.eval, StoredRow.valuation_oneOf hpath hoperand, List.map_map]
  rfl

/-- What the alternative is compiled to is the disjunction of the equalities. -/
lemma eval_alternative {alternative : Condition}
    (hjoined : Condition.joined .or (values.map (equality field)) = .ok alternative) :
    alternative.eval (row.valuation relates) =
      Connective.or.join (values.map fun value =>
        (equality field value).eval (row.valuation relates)) := by
  rw [Condition.eval_joined hjoined, Condition.evals_eq_map, List.map_map]
  rfl

section Alternative

variable {alternative : Condition} (hpath : isColumnPath field = true) (hne : values ≠ [])
  (hscalars : ∀ value ∈ values, value.isScalar = true)
  (hjoined : Condition.joined .or (values.map (equality field)) = .ok alternative)

include hpath hne hscalars hjoined

/-- Membership is true of the rows that the alternative is true of and in which the column holds
something. -/
lemma eval_membership_eq_yes_iff :
    (membership field values).eval (row.valuation relates) = .yes ↔
      alternative.eval (row.valuation relates) = .yes ∧ (row field).isSome = true := by
  rw [eval_membership hpath hne, eval_alternative hjoined, Connective.join_or_eq_yes_iff,
    Connective.join_or_eq_yes_iff, List.mem_map, List.mem_map]
  constructor
  · rintro ⟨value, hmem, htruth⟩
    obtain ⟨heval, hsome⟩ := (signTruth_eq_yes_iff hpath (hscalars value hmem)).mp htruth
    exact ⟨⟨value, hmem, heval⟩, hsome⟩
  · rintro ⟨⟨value, hmem, heval⟩, hsome⟩
    exact ⟨value, hmem, (signTruth_eq_yes_iff hpath (hscalars value hmem)).mpr ⟨heval, hsome⟩⟩

/-- Without `null` among the values, membership and the alternative have the same truth. -/
lemma eval_membership_of_null_notMem (hnull : .null ∉ values) :
    (membership field values).eval (row.valuation relates) =
      alternative.eval (row.valuation relates) := by
  rw [eval_membership hpath hne, eval_alternative hjoined]
  congr 1
  refine List.map_congr_left fun value hmem => ?_
  exact (eval_equality_of_ne_null hpath (hscalars value hmem) fun h => hnull (h ▸ hmem)).symm

omit hne hscalars in
/-- With `null` among the values, the alternative is true of a row in which the column holds
nothing. -/
lemma eval_alternative_of_null_mem (hnull : .null ∈ values) (hnone : row field = none) :
    alternative.eval (row.valuation relates) = .yes := by
  rw [eval_alternative hjoined, Connective.join_or_eq_yes_iff]
  refine List.mem_map.mpr ⟨.null, hnull, ?_⟩
  rw [eval_equality_null hpath, hnone]
  rfl

end Alternative

/-- **Membership and alternatives.**  Membership of a field in a list of values and the alternative
of its equalities with them are both compiled.  In every row, however held values compare with
literals, the first is true just if the second is and the column holds something.  They are true of
the same rows just if `null` is not among the values, and then they have the same truth in every
row. -/
theorem membership_iff_alternative (relates : String → α → Literal → Bool)
    (hpath : isColumnPath field = true) (hne : values ≠ [])
    (hscalars : ∀ value ∈ values, value.isScalar = true) :
    ∃ member alternative,
      compile (memberDocument field values) = .ok (some member) ∧
      compile (alternativeDocument field values) = .ok (some alternative) ∧
      (∀ row : StoredRow α, member.eval (row.valuation relates) = .yes ↔
        alternative.eval (row.valuation relates) = .yes ∧ (row field).isSome = true) ∧
      ((∀ row : StoredRow α, member.eval (row.valuation relates) = .yes ↔
        alternative.eval (row.valuation relates) = .yes) ↔ .null ∉ values) ∧
      (.null ∉ values → ∀ row : StoredRow α,
        member.eval (row.valuation relates) = alternative.eval (row.valuation relates)) := by
  obtain ⟨alternative, hcompiled, hjoined⟩ := exists_compile_alternativeDocument hpath hne hscalars
  have hmeets : ∀ row : StoredRow α, (membership field values).eval (row.valuation relates) = .yes ↔
      alternative.eval (row.valuation relates) = .yes ∧ (row field).isSome = true :=
    fun _ => eval_membership_eq_yes_iff hpath hne hscalars hjoined
  have hsame : .null ∉ values → ∀ row : StoredRow α,
      (membership field values).eval (row.valuation relates) =
        alternative.eval (row.valuation relates) :=
    fun hnull _ => eval_membership_of_null_notMem hpath hne hscalars hjoined hnull
  refine ⟨membership field values, alternative, compile_memberDocument hpath hne hscalars,
    hcompiled, hmeets, ⟨fun hagree hnull => ?_, fun hnull row => by rw [hsame hnull row]⟩, hsame⟩
  -- The row that holds nothing meets the alternative but not the list.
  have halternative : alternative.eval (StoredRow.valuation relates fun _ => none) = .yes :=
    eval_alternative_of_null_mem hpath hjoined hnull rfl
  obtain ⟨-, hsome⟩ := (hmeets _).mp ((hagree _).mpr halternative)
  cases hsome

/-- A held literal compares with a literal by being the same one. -/
def sameLiteral (_ : String) (held literal : Literal) : Bool := held = literal

/-- Cities are asked for in either form: the texts differ, and the truth is the same in every
row. -/
theorem cities_asked_for : ∃ member alternative,
    compile (memberDocument "people.city" [.string "Bern", .number (.int 3), .bool true]) =
      .ok (some member) ∧
    compile (alternativeDocument "people.city" [.string "Bern", .number (.int 3), .bool true]) =
      .ok (some alternative) ∧
    member.clause = "(people.city IN (\x27Bern\x27,3,1))" ∧
    alternative.clause = "(people.city = \x27Bern\x27 OR people.city = 3 OR people.city = 1)" ∧
    ∀ row : StoredRow Literal,
      member.eval (row.valuation sameLiteral) = alternative.eval (row.valuation sameLiteral) := by
  have hmemberClause : ((compile (memberDocument "people.city"
      [.string "Bern", .number (.int 3), .bool true])).toOption.join).map Condition.clause =
      some "(people.city IN (\x27Bern\x27,3,1))" := by decide +kernel
  have halternativeClause : ((compile (alternativeDocument "people.city"
      [.string "Bern", .number (.int 3), .bool true])).toOption.join).map Condition.clause =
      some "(people.city = \x27Bern\x27 OR people.city = 3 OR people.city = 1)" := by decide +kernel
  have hpath : isColumnPath "people.city" = true := by decide +kernel
  have hnull : Json.null ∉ [.string "Bern", .number (.int 3), .bool true] := by simp
  obtain ⟨member, alternative, hmember, halternative, -, -, hsame⟩ :=
    membership_iff_alternative sameLiteral hpath
      (List.cons_ne_nil (.string "Bern") [.number (.int 3), .bool true])
      (List.all_eq_true.mp rfl)
  rw [hmember] at hmemberClause
  rw [halternative] at halternativeClause
  exact ⟨member, alternative, hmember, halternative, Option.some.inj hmemberClause,
    Option.some.inj halternativeClause, hsame hnull⟩

/-- Asked for a missing email, the alternative is true of a row without an email, the operator is
not. -/
theorem missing_email_not_in_list : ∃ member alternative,
    compile (memberDocument "email" [.null]) = .ok (some member) ∧
    compile (alternativeDocument "email" [.null]) = .ok (some alternative) ∧
    member.clause = "(email IN (NULL))" ∧ alternative.clause = "(email IS NULL)" ∧
    member.eval (StoredRow.valuation sameLiteral fun _ => none) = .unknown ∧
    alternative.eval (StoredRow.valuation sameLiteral fun _ => none) = .yes := by
  have hpath : isColumnPath "email" = true := by decide +kernel
  have hne : [Json.null] ≠ [] := List.cons_ne_nil _ _
  have hscalars : ∀ value ∈ [Json.null], value.isScalar = true := List.forall_mem_singleton.mpr rfl
  obtain ⟨alternative, hcompiled, hjoined⟩ := exists_compile_alternativeDocument hpath hne hscalars
  obtain rfl : equality "email" .null = alternative := Except.ok.inj hjoined
  exact ⟨membership "email" [.null], _, compile_memberDocument hpath hne hscalars, hcompiled,
    by decide +kernel, by decide +kernel, by decide +kernel, by decide +kernel⟩

end Filter

end DocTables
