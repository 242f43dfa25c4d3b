import DocTables.Proofs.Query.ReadGrammar
import DocTables.Proofs.Query.StatementRoundTrip

/-!
# Which reads are statements

The clauses of a read are put together one by one: a number of rows to skip is written whether or
not there is a largest number of rows.  A read is derived by the grammar just if there is one
wherever rows are skipped, that is, if some call sets a limit or none sets an offset
(`isReadText_iff_limited`).  All the rest of a read is always derived.

What calls do to both limits is followed one call at a time (`setsLimits_of_call`); nothing takes a
limit away.
-/

namespace DocTables

/-! ## Conditions are expressions -/

/-- A literal is an expression. -/
lemma Scalar.isExpression_token (value : Scalar) : IsExpression [value.written.token] := by
  cases value with
  | null => exact .null
  | bool b =>
    cases b
    · exact .number (.unsigned (.whole (isDigits_singleton (c := '0') rfl)))
    · exact .number (.unsigned (.whole (isDigits_singleton (c := '1') rfl)))
  | int n => exact .number (isNumeral_toString n)
  | float x =>
    cases htext : Scalar.numberLayout.text? x with
    | none =>
      simp only [Scalar.written, htext]
      exact .null
    | some digits =>
      simp only [Scalar.written, htext]
      exact .number (DecimalLayout.isNumeral_of_text? rfl htext)
  | text s => exact .text s

/-- The sign of a comparator that takes one value is an operator. -/
lemma Comparator.isOperator_symbol {comparator : Comparator} (h : comparator ≠ .oneOf) :
    IsOperator [.sign comparator.symbol] := by
  refine .sign ?_
  cases comparator with
  | oneOf => exact absurd rfl h
  | _ => decide

/-- A comparison is an expression. -/
lemma Comparison.isExpression_tokens {comparison : Comparison}
    (hpath : isColumnPath comparison.field = true)
    (htakes : comparison.comparator.Takes comparison.operand) : IsExpression comparison.tokens := by
  obtain ⟨field, comparator, operand⟩ := comparison
  have hfield : IsExpression [.word field] := .column hpath
  rcases htakes with ⟨hcomparator, first, rest, hoperand⟩ | ⟨hcomparator, scalar, hoperand⟩
  · cases hcomparator
    cases hoperand
    have hitems : ∀ item ∈ (first :: rest).map (fun value => [value.written.token]),
        IsExpression item := by
      intro item hitem
      obtain ⟨value, -, rfl⟩ := List.mem_map.mp hitem
      exact value.isExpression_token
    have hlist := IsExpression.oneOf hfield hitems
    simpa only [Comparison.tokens, Comparator.symbol, List.append_assoc, List.cons_append,
      List.nil_append] using hlist
  · cases hoperand
    by_cases hnull : scalar = .null ∧ (comparator = .eq ∨ comparator = .ne)
    · obtain ⟨rfl, hequality⟩ := hnull
      rcases hequality with rfl | rfl
      · exact .binary hfield .is .null
      · exact .binary hfield .isNot .null
    · rw [tokens_value hnull]
      exact .binary hfield (Comparator.isOperator_symbol hcomparator) scalar.isExpression_token

lemma Connective.isOperator_keyword (connective : Connective) :
    IsOperator [.word connective.keyword] := by
  cases connective
  · exact .and
  · exact .or

/-- Expressions with a connective between any two of them are one, if there is one at all. -/
lemma isExpression_intercalate (connective : Connective) {lists : List (List SqlToken)}
    (hne : lists ≠ []) (h : ∀ list ∈ lists, IsExpression list) :
    IsExpression ([SqlToken.word connective.keyword].intercalate lists) := by
  induction lists with
  | nil => exact absurd rfl hne
  | cons first rest ih =>
    obtain ⟨hfirst, hrest⟩ := List.forall_mem_cons.mp h
    cases rest with
    | nil =>
      rw [List.intercalate_singleton]
      exact hfirst
    | cons second others =>
      rw [List.intercalate_cons_cons]
      exact .binary hfirst connective.isOperator_keyword (ih (List.cons_ne_nil _ _) hrest)

namespace Condition

variable {condition : Condition}

/-- A condition is an expression. -/
lemma WellFormed.isExpression_tokens (h : condition.WellFormed) :
    IsExpression condition.tokens := by
  induction h with
  | comparison hpath htakes => exact Comparison.isExpression_tokens hpath htakes
  | @group connective members hlength _ ih =>
    have hne : members.map tokens ≠ [] := by
      rw [Ne, List.map_eq_nil_iff]
      rintro rfl
      exact absurd hlength (by decide)
    have hmembers : ∀ list ∈ members.map tokens, IsExpression list := by
      intro list hlist
      obtain ⟨member, hmember, rfl⟩ := List.mem_map.mp hlist
      exact ih member hmember
    rw [tokens, tokenLists_eq_map]
    exact .parenthesized (isExpression_intercalate connective hne hmembers)

/-- The clause of a condition is an expression. -/
lemma WellFormed.isExpression_clause (h : condition.WellFormed) :
    ∃ tokens, sqlTokens? condition.clause = some tokens ∧ IsExpression tokens := by
  have htext := h.spells_text
  cases condition with
  | comparison c =>
    exact ⟨_, (spells_parenthesized htext).sqlTokens?, .parenthesized h.isExpression_tokens⟩
  | group connective members => exact ⟨_, htext.sqlTokens?, h.isExpression_tokens⟩

end Condition

/-! ## Statements -/

namespace QueryStatement

lemma isColumns_columnPieces {columns : List String}
    (h : ∀ column ∈ columns, isColumnPath column = true) : IsColumns (columnPieces columns) := by
  cases columns with
  | nil => exact .star
  | cons first rest => exact .named (List.cons_ne_nil first rest) h

lemma isWhere_conditionPieces {condition : Option Condition}
    (h : ∀ present, condition = some present → present.WellFormed) :
    IsWhere (conditionPieces condition) := by
  cases condition with
  | none => exact .none
  | some present =>
    obtain ⟨tokens, htokens, hexpression⟩ := (h present rfl).isExpression_clause
    refine .expression (.cons htokens .nil) ?_
    rwa [List.flatten_cons, List.flatten_nil, List.append_nil]

lemma isOrder_orderPieces {order : List OrderTerm}
    (h : ∀ term ∈ order, isColumnPath term.column = true) : IsOrder (orderPieces order) := by
  cases order with
  | nil => exact .none
  | cons first rest =>
    refine .terms (List.cons_ne_nil _ _) fun pieces hpieces => ?_
    obtain ⟨term, hterm, rfl⟩ := List.mem_map.mp hpieces
    refine .directed (h term hterm) ?_
    cases term.direction <;> simp [Direction.keyword]

/-- The pieces of a read up to its limits. -/
def unlimitedPieces (distinct : Bool) (columns : List String) (table : String)
    (condition : Option Condition) (order : List OrderTerm) : List String :=
  (if distinct then ["SELECT", "DISTINCT"] else ["SELECT"]) ++ columnPieces columns ++
    ["FROM", table] ++ conditionPieces condition ++ orderPieces order

/-- All of a read but its limits is derived. -/
lemma isUnlimitedRead_unlimitedPieces (distinct : Bool) {columns : List String} {table : String}
    {condition : Option Condition} {order : List OrderTerm} (htable : isPlainName table = true)
    (hcolumns : ∀ column ∈ columns, isColumnPath column = true)
    (hcondition : ∀ present, condition = some present → present.WellFormed)
    (horder : ∀ term ∈ order, isColumnPath term.column = true) :
    IsUnlimitedRead (unlimitedPieces distinct columns table condition order) := by
  have hread : ∀ {quantifier}, IsQuantifier quantifier → IsUnlimitedRead _ := fun hquantifier =>
    .select hquantifier (isColumns_columnPieces hcolumns) htable
      (isWhere_conditionPieces hcondition) (isOrder_orderPieces horder)
  cases distinct with
  | true => exact hread .distinct
  | false => exact hread .all

/-- With its limits, a read is derived just if rows are skipped only after a limit. -/
lemma isRead_append_iff {read : List String} (h : IsUnlimitedRead read)
    (limit offset : Option Int) :
    IsRead (read ++ numberPieces "LIMIT" limit ++ numberPieces "OFFSET" offset) ↔
      (offset.isSome = true → limit.isSome = true) := by
  have hlimited : ∀ {limits}, IsLimits limits → IsRead (read ++ limits) := fun hlimits =>
    .limited h hlimits
  match limit, offset with
  | some n, some m =>
    have hread := hlimited (.offset (isNumeral_toString n) (isNumeral_toString m))
    simpa [numberPieces] using hread
  | some n, none =>
    have hread := hlimited (.limit (isNumeral_toString n))
    simpa [numberPieces] using hread
  | none, none =>
    have hread := hlimited .none
    simpa [numberPieces] using hread
  | none, some m =>
    simp only [numberPieces, List.append_nil, Option.isSome_some, Option.isSome_none,
      Bool.false_eq_true, imp_false, not_true_eq_false, iff_false]
    intro hread
    obtain ⟨earlier, n, -, -, -, -, rfl, -⟩ := hread.exists_of_offset
    exact h.not_mem (isReserved_of_mem (by simp [limitWords] : "LIMIT" ∈ limitWords)) (by simp)

/-- So is its text. -/
lemma WellFormed.isReadText_iff {distinct : Bool} {columns : List String} {table : String}
    {condition : Option Condition} {order : List OrderTerm} {limit offset : Option Int}
    (h : (QueryStatement.select distinct columns table condition order limit offset).WellFormed) :
    IsReadText (QueryStatement.select distinct columns table condition order limit offset).sql ↔
      (offset.isSome = true → limit.isSome = true) := by
  have hpieces := h.parts_sql.pieces_eq
  cases h with
  | select htable hcolumns hcondition horder =>
    rw [IsReadText, hpieces]
    exact isRead_append_iff
      (isUnlimitedRead_unlimitedPieces distinct htable hcolumns hcondition horder) limit offset

/-- A number of rows to skip is written at the end. -/
lemma sql_select_offset (distinct : Bool) (columns : List String) (table : String)
    (condition : Option Condition) (order : List OrderTerm) (limit offset : Option Int) :
    (select distinct columns table condition order limit offset).sql =
      (select distinct columns table condition order limit none).sql ++
        numberText "OFFSET" offset :=
  congrArg (· ++ numberText "OFFSET" offset) String.append_empty.symm

end QueryStatement

/-! ## Calls and limits -/

namespace QueryCall

/-- Whether a call sets the largest number of rows. -/
def setsLimit : QueryCall → Bool
  | .findOne _ | .findById _ => true
  | .limit value => (Query.rowCount? value).isSome
  | _ => false

/-- Whether a call sets the number of rows to skip. -/
def setsOffset : QueryCall → Bool
  | .findOne _ | .findById _ => true
  | .offset value => (Query.rowCount? value).isSome
  | _ => false

end QueryCall

namespace Query

variable {query next : Query} {call : QueryCall} {calls : List QueryCall}

/-- After a call that is not refused, a limit is set just if it was set before or the call sets
it. -/
abbrev SetsLimits (query : Query) (call : QueryCall) (next : Query) : Prop :=
  next.limit.isSome = (query.limit.isSome || call.setsLimit) ∧
    next.offset.isSome = (query.offset.isSome || call.setsOffset)

/-- A call that sets neither limit leaves both. -/
lemma setsLimits_of_same (hlimit : next.limit = query.limit) (hoffset : next.offset = query.offset)
    (hsetsLimit : call.setsLimit = false) (hsetsOffset : call.setsOffset = false) :
    SetsLimits query call next := by
  refine ⟨?_, ?_⟩
  · rw [hlimit, hsetsLimit, Bool.or_false]
  · rw [hoffset, hsetsOffset, Bool.or_false]

/-- Adding a condition leaves the limits. -/
lemma limits_collect (query : Query) (condition : Option Condition) :
    (query.collect condition).limit = query.limit ∧
      (query.collect condition).offset = query.offset := by
  cases condition <;> exact ⟨rfl, rfl⟩

/-- A number of rows that is set comes before the one there was. -/
lemma isSome_or_rowCount? (value : Json) (present : Option Int) :
    ((rowCount? value).or present).isSome = (present.isSome || (rowCount? value).isSome) := by
  rw [Option.isSome_or, Bool.or_comm]

/-- Of the calls with a filter document, the reads of one record set both limits. -/
lemma Prepares.setsLimits {document : Json} (h : Prepares query call document next) :
    SetsLimits query call next := by
  cases h with
  | findOne | findById => exact ⟨(Bool.or_true _).symm, (Bool.or_true _).symm⟩
  | _ => exact setsLimits_of_same rfl rfl rfl rfl

/-- Fixing the conditions leaves the limits. -/
lemma limits_finalize (query : Query) :
    query.finalize.limit = query.limit ∧ query.finalize.offset = query.offset := by
  rw [finalize_eq]
  exact ⟨rfl, rfl⟩

/-- What every call does to the limits: the reads of one record set both, and the calls of their
names one each, if their values are numbers. -/
lemma setsLimits_of_call (h : query.call call = .ok next) : SetsLimits query call next := by
  cases effect_of_call h with
  | @document call document prepared condition _ hprepares _ =>
    obtain ⟨hlimit, hoffset⟩ := prepared.limits_collect condition
    rw [SetsLimits, hlimit, hoffset]
    exact hprepares.setsLimits
  | @limit value => exact ⟨isSome_or_rowCount? value query.limit, (Bool.or_false _).symm⟩
  | @offset value => exact ⟨(Bool.or_false _).symm, isSome_or_rowCount? value query.offset⟩
  | finalize => exact setsLimits_of_same query.limits_finalize.1 query.limits_finalize.2 rfl rfl
  | _ => exact setsLimits_of_same rfl rfl rfl rfl

/-- What a chain of calls does to the limits: nothing takes one away. -/
lemma limits_of_callAll (h : query.callAll calls = .ok next) :
    next.limit.isSome = (query.limit.isSome || calls.any QueryCall.setsLimit) ∧
      next.offset.isSome = (query.offset.isSome || calls.any QueryCall.setsOffset) := by
  induction calls generalizing query with
  | nil =>
    cases h
    exact ⟨(Bool.or_false _).symm, (Bool.or_false _).symm⟩
  | cons first rest ih =>
    obtain ⟨called, hcalled, hrest⟩ := exists_of_bind_eq_ok h
    obtain ⟨hlimit, hoffset⟩ := setsLimits_of_call hcalled
    obtain ⟨hlimit', hoffset'⟩ := ih hrest
    rw [hlimit', hoffset', hlimit, hoffset, List.any_cons, List.any_cons, Bool.or_assoc,
      Bool.or_assoc]
    exact ⟨rfl, rfl⟩

/-! ## Reads of queries -/

/-- A query starts without limits. -/
lemma no_limits_of_ofTable {table : String} (h : ofTable table = .ok query) :
    query.limit.isSome = false ∧ query.offset.isSome = false := by
  obtain ⟨-, rfl⟩ := eq_of_ofTable h
  exact ⟨rfl, rfl⟩

/-- A query that reads rows is rendered to the text of a read with its limits. -/
lemma exists_select_of_render {sql : String} (hquery : query.WellFormed)
    (hverb : query.verb = .select ∨ query.verb = .distinct) (hrender : query.render = .ok sql) :
    ∃ distinct columns table condition order,
      (QueryStatement.select distinct columns table condition order query.limit
        query.offset).WellFormed ∧
      sql = (QueryStatement.select distinct columns table condition order query.limit
        query.offset).sql := by
  obtain ⟨statement, hstatement, rfl⟩ := exists_of_map_eq_ok hrender
  have hfinalize : query.finalize.WellFormed := hquery.edit .finalize
  have hform := (hfinalize.parts_of_statement query.finalized_finalize hstatement).1
  obtain ⟨hlimit, hoffset⟩ := query.limits_finalize
  rw [← hlimit, ← hoffset]
  rw [← verb_finalize] at hverb
  unfold Query.statement at hstatement
  obtain ⟨_, -, hstatement⟩ := exists_of_bind_eq_ok hstatement
  rcases hverb with hverb | hverb
  · rw [hverb] at hstatement
    cases hstatement
    exact ⟨_, _, _, _, _, hform, rfl⟩
  · rw [hverb] at hstatement
    cases hstatement
    exact ⟨_, _, _, _, _, hform, rfl⟩

/-- A read of some people in order, of which some are skipped.  The first limit is no number; the
second one comes after the offset. -/
def pagedCalls : List QueryCall :=
  [.limit (.string "ten"), .find (.object [("age", .object [("$gt", .number (.int 20))]),
      ("city", .array [])]), .select ["name", "people.age"], .offset (.number (.int 5)),
    .orderBy "-age", .limit (.number (.int 10))]

/-- A read of rows of which some are skipped, with a limit that is no number. -/
def skippingCalls : List QueryCall := [.offset (.number (.int 5)), .limit (.string "ten")]

/-- The text that a read is rendered to is derived by the grammar of reads just if it has a limit
wherever it skips rows: if some call sets a largest number of rows, or none sets a number of rows to
skip.  Without a limit, everything before the number of rows to skip is derived. -/
theorem isReadText_iff_limited {table sql : String} {calls : List QueryCall} {start query : Query}
    (hstart : ofTable table = .ok start) (hcalls : start.callAll calls = .ok query)
    (hverb : query.verb = .select ∨ query.verb = .distinct) (hrender : query.render = .ok sql) :
    (IsReadText sql ↔ (query.offset.isSome = true → query.limit.isSome = true)) ∧
    (IsReadText sql ↔ ((∃ call ∈ calls, call.setsOffset = true) →
      ∃ call ∈ calls, call.setsLimit = true)) ∧
    (query.limit = none → ∃ read, IsReadText read ∧
      sql = read ++ QueryStatement.numberText "OFFSET" query.offset) := by
  have hquery : query.WellFormed := (wellFormed_of_ofTable hstart).callAll hcalls
  obtain ⟨distinct, columns, table, condition, order, hform, rfl⟩ :=
    exists_select_of_render hquery hverb hrender
  have hiff := hform.isReadText_iff
  refine ⟨hiff, ?_, fun hnone => ?_⟩
  · obtain ⟨hlimit, hoffset⟩ := limits_of_callAll hcalls
    obtain ⟨hstartLimit, hstartOffset⟩ := no_limits_of_ofTable hstart
    rw [hstartLimit, Bool.false_or] at hlimit
    rw [hstartOffset, Bool.false_or] at hoffset
    rw [hiff, hlimit, hoffset, List.any_eq_true, List.any_eq_true]
  · refine ⟨_, ?_, QueryStatement.sql_select_offset _ _ _ _ _ _ _⟩
    have hunlimited : (QueryStatement.select distinct columns table condition order none
        none).WellFormed := by
      cases hform with
      | select htable hcolumns hcondition horder => exact .select htable hcolumns hcondition horder
    rw [hnone]
    exact hunlimited.isReadText_iff.mpr fun hsome => hsome

/-- The offset comes before the limit and after a limit that is none; the text is a read. -/
theorem isReadText_pagedCalls : ∃ start query sql, ofTable "people" = .ok start ∧
    start.callAll pagedCalls = .ok query ∧ query.verb = .select ∧ query.render = .ok sql ∧
    sql = "SELECT name, people.age FROM people WHERE (age > 20 AND city = \x27[]\x27) " ++
      "ORDER BY age DESC LIMIT 10 OFFSET 5" ∧ IsReadText sql := by
  have hrun : Except.toOption (do
      let start ← ofTable "people"
      let query ← start.callAll pagedCalls
      let sql ← query.render
      return (query.verb, sql)) = some (.select,
        "SELECT name, people.age FROM people WHERE (age > 20 AND city = \x27[]\x27) " ++
          "ORDER BY age DESC LIMIT 10 OFFSET 5") := by
    decide +kernel
  obtain ⟨start, hstart, hrun⟩ := exists_of_bind_eq_ok (eq_ok_of_toOption hrun)
  obtain ⟨query, hcalls, hrun⟩ := exists_of_bind_eq_ok hrun
  obtain ⟨sql, hrender, hrun⟩ := exists_of_bind_eq_ok hrun
  obtain ⟨hverb, hsql⟩ := Prod.mk.inj (Except.ok.inj hrun)
  have hlimited : ∃ call ∈ pagedCalls, call.setsLimit = true :=
    ⟨.limit (.number (.int 10)), by simp [pagedCalls], rfl⟩
  have hread := (isReadText_iff_limited hstart hcalls (.inl hverb) hrender).2.1
  exact ⟨start, query, sql, hstart, hcalls, hverb, hrender, hsql, hread.mpr fun _ => hlimited⟩

/-- Rows are skipped and there is no limit: the text that the query is rendered to is no read. -/
theorem people_skipped_without_limit : ∃ start query, ofTable "people" = .ok start ∧
    start.callAll skippingCalls = .ok query ∧ query.verb = .select ∧
    query.render = .ok "SELECT * FROM people OFFSET 5" ∧
    ¬ IsReadText "SELECT * FROM people OFFSET 5" := by
  have hrun : Except.toOption (do
      let start ← ofTable "people"
      let query ← start.callAll skippingCalls
      let sql ← query.render
      return (query.verb, sql)) = some (.select, "SELECT * FROM people OFFSET 5") := by
    decide +kernel
  obtain ⟨start, hstart, hrun⟩ := exists_of_bind_eq_ok (eq_ok_of_toOption hrun)
  obtain ⟨query, hcalls, hrun⟩ := exists_of_bind_eq_ok hrun
  obtain ⟨sql, hrender, hrun⟩ := exists_of_bind_eq_ok hrun
  obtain ⟨hverb, rfl⟩ := Prod.mk.inj (Except.ok.inj hrun)
  refine ⟨start, query, hstart, hcalls, hverb, hrender, fun hread => ?_⟩
  have hpieces : pieces "SELECT * FROM people OFFSET 5" =
      ["SELECT", "*", "FROM", "people"] ++ "OFFSET" :: ["5"] := by decide +kernel
  rw [IsReadText, hpieces] at hread
  obtain ⟨read, n, m, -, -, -, hbefore, -⟩ := hread.exists_of_offset
  have hlimit : "LIMIT" ∈ ["SELECT", "*", "FROM", "people"] := by
    rw [hbefore]
    simp
  exact absurd hlimit (by decide)

end Query

end DocTables
