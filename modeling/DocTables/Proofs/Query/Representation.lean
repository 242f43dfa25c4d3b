import DocTables.Proofs.Query.Finalization
import DocTables.Proofs.Query.StatementRoundTrip

/-!
# What every query holds

However a query comes about, its names were checked and nothing in it is empty that must not be:
`Query.WellFormed` is kept by every edit of it, whatever is left over from a verb that was set
before. So the statement that it is rendered to has this form too.

A list, a row or a group that is not empty opens with something that is no closing parenthesis.  In
the text of a statement an empty pair of parentheses therefore only occurs within quoted texts
(`QueryStatement.WellFormed.filled_sql`).
-/

namespace DocTables

/-! ## Parentheses -/

/-- Whether a parenthesis is closed as soon as it is opened, outside of quoted texts.  It is given
whether a quoted text is open before the first character. -/
def hasEmptyPair (quoted : Bool) : List Char → Bool
  | [] => false
  | c :: rest =>
    (!quoted && c == '(' && rest.head? == some ')') ||
      hasEmptyPair (if c = '\x27' then !quoted else quoted) rest

/-- Where there is no empty pair outside of quoted texts, an odd number of quote marks comes before
each one. -/
lemma odd_count_of_hasEmptyPair {quoted : Bool} {before after : List Char}
    (h : hasEmptyPair quoted (before ++ '(' :: ')' :: after) = false) :
    (before.count '\x27' + quoted.toNat) % 2 = 1 := by
  induction before generalizing quoted with
  | nil =>
    cases quoted with
    | true => rfl
    | false => simp [hasEmptyPair] at h
  | cons c rest ih =>
    rw [List.cons_append, hasEmptyPair, Bool.or_eq_false_iff] at h
    have hrest := ih h.2
    by_cases hquote : c = '\x27'
    · rw [if_pos hquote] at hrest
      rw [hquote, List.count_cons_self]
      cases quoted
      · simp only [Bool.not_false, Bool.toNat_true, Bool.toNat_false] at hrest ⊢
        omega
      · simp only [Bool.not_true, Bool.toNat_true, Bool.toNat_false] at hrest ⊢
        omega
    · rw [if_neg hquote] at hrest
      rw [List.count_cons_of_ne hquote]
      exact hrest

/-- The text closes its quoted texts, and there is no empty pair in it or at its end, whatever comes
after it. -/
def Filled (text : String) : Prop :=
  ∀ rest, hasEmptyPair false (text.toList ++ rest) = hasEmptyPair false rest

/-- The text has a first character, and this is no closing parenthesis. -/
def Begins (text : String) : Prop := ∃ c rest, text.toList = c :: rest ∧ c ≠ ')'

variable {first second text separator : String}

lemma Filled.append (hfirst : Filled first) (hsecond : Filled second) :
    Filled (first ++ second) := by
  intro rest
  rw [String.toList_append, List.append_assoc, hfirst, hsecond]

lemma Begins.append (h : Begins first) (second : String) : Begins (first ++ second) := by
  obtain ⟨c, rest, hfirst, hc⟩ := h
  refine ⟨c, rest ++ second.toList, ?_, hc⟩
  rw [String.toList_append, hfirst, List.cons_append]

/-- Characters of one kind are passed over, if neither the opening parenthesis nor the quote mark is
of it. -/
lemma hasEmptyPair_of_kind {kind : Char → Bool} {cs : List Char} (h : ∀ c ∈ cs, kind c = true)
    (hopening : kind '(' = false) (hquote : kind '\x27' = false) (rest : List Char) :
    hasEmptyPair false (cs ++ rest) = hasEmptyPair false rest := by
  induction cs with
  | nil => rfl
  | cons c others ih =>
    obtain ⟨hc, hothers⟩ := List.forall_mem_cons.mp h
    have hnotOpening : (c == '(') = false := by
      rw [beq_eq_false_iff_ne]
      rintro rfl
      rw [hopening] at hc
      cases hc
    have hnotQuote : c ≠ '\x27' := by
      rintro rfl
      rw [hquote] at hc
      cases hc
    rw [List.cons_append, hasEmptyPair, hnotOpening, Bool.and_false, Bool.false_and, Bool.false_or,
      if_neg hnotQuote]
    exact ih hothers

lemma filled_of_kind {kind : Char → Bool} (h : ∀ c ∈ text.toList, kind c = true)
    (hopening : kind '(' = false) (hquote : kind '\x27' = false) : Filled text :=
  fun rest => hasEmptyPair_of_kind h hopening hquote rest

/-- Any other character than an opening parenthesis and a quote mark. -/
def isPassed (c : Char) : Bool := c ≠ '(' && c ≠ '\x27'

/-- A text of such characters is passed over. -/
lemma filled_of_passed (h : text.toList.all isPassed = true) : Filled text :=
  filled_of_kind (List.all_eq_true.mp h) rfl rfl

/-- The content of a quoted text is passed over, up to the quote mark that closes it. -/
lemma hasEmptyPair_doubled (cs rest : List Char) :
    hasEmptyPair true (Text.doubled '\x27' cs ++ rest) = hasEmptyPair true rest := by
  induction cs with
  | nil => rfl
  | cons c others ih =>
    unfold Text.doubled
    split
    · exact ih
    · rename_i hquote
      rw [List.cons_append, hasEmptyPair, if_neg hquote, ih]
      rfl

/-- So is a quoted text as a whole. -/
lemma filled_quoted (content : String) : Filled (Text.quoted '\x27' content) := by
  intro rest
  have hopened :
      hasEmptyPair false ('\x27' :: (Text.doubled '\x27' content.toList ++ '\x27' :: rest)) =
      hasEmptyPair true (Text.doubled '\x27' content.toList ++ '\x27' :: rest) := rfl
  have hclosed : hasEmptyPair true ('\x27' :: rest) = hasEmptyPair false rest := rfl
  rw [Text.quoted, String.toList_ofList, List.cons_append, List.append_assoc, List.singleton_append,
    hopened, hasEmptyPair_doubled, hclosed]

/-- A pair of parentheses around something that begins is not empty. -/
lemma Filled.parenthesized (h : Filled text) (hbegins : Begins text) :
    Filled ("(" ++ text ++ ")") := by
  intro rest
  obtain ⟨c, others, htext, hc⟩ := hbegins
  have hopened : hasEmptyPair false ('(' :: (text.toList ++ ')' :: rest)) =
      hasEmptyPair false (text.toList ++ ')' :: rest) := by
    have hhead : ((text.toList ++ ')' :: rest).head? == some ')') = false := by
      rw [htext, beq_eq_false_iff_ne]
      exact fun hsome => hc (Option.some.inj hsome)
    rw [hasEmptyPair, hhead, Bool.and_false, Bool.false_or]
    rfl
  have hclosed : hasEmptyPair false (')' :: rest) = hasEmptyPair false rest := rfl
  calc hasEmptyPair false (("(" ++ text ++ ")").toList ++ rest)
      = hasEmptyPair false ('(' :: (text.toList ++ ')' :: rest)) := by
        simp only [String.toList_append, List.append_assoc]
        rfl
    _ = hasEmptyPair false rest := by rw [hopened, h, hclosed]

lemma begins_parenthesized (text : String) : Begins ("(" ++ text ++ ")") := by
  have hopening : Begins "(" := ⟨'(', [], rfl, by decide⟩
  exact (hopening.append text).append ")"

/-- Texts may be joined. -/
lemma filled_intercalate {texts : List String} (hseparator : Filled separator)
    (h : ∀ text ∈ texts, Filled text) : Filled (separator.intercalate texts) :=
  closed_intercalate (fun _ => rfl) Filled.append hseparator h

/-- Texts that are joined begin as the first of them. -/
lemma begins_intercalate {texts : List String} (hne : texts ≠ [])
    (h : ∀ text ∈ texts, Begins text) : Begins (separator.intercalate texts) := by
  cases texts with
  | nil => exact absurd rfl hne
  | cons first rest =>
    have hfirst : Begins first := h first List.mem_cons_self
    cases rest with
    | nil =>
      rw [String.intercalate_singleton]
      exact hfirst
    | cons second others =>
      rw [String.intercalate_cons_cons]
      exact (hfirst.append separator).append _

/-! ## Names and literals -/

/-- The path of a column. -/
lemma filled_columnPath {path : String} (h : isColumnPath path = true) :
    Filled path ∧ Begins path := by
  obtain ⟨c, rest, hpath, hc, hrest⟩ := exists_of_isColumnPath h
  have hkind : ∀ d ∈ path.toList, (isNameRest d || d == '.') = true := by
    rw [hpath]
    intro d hd
    rw [Bool.or_eq_true, beq_iff_eq]
    rcases List.mem_cons.mp hd with rfl | hmem
    · exact .inl (isNameRest_of_isNameStart hc)
    · exact hrest d hmem
  refine ⟨filled_of_kind hkind rfl rfl, c, rest, hpath, ?_⟩
  rintro rfl
  cases hc

/-- A plain name. -/
lemma filled_plainName {name : String} (h : isPlainName name = true) :
    Filled name ∧ Begins name := by
  obtain ⟨c, rest, hname, hc, -⟩ := exists_of_isPlainName h
  refine ⟨filled_of_kind (isNameRest_of_mem_plain h) rfl rfl, c, rest, hname, ?_⟩
  rintro rfl
  cases hc

/-- A literal. -/
lemma Scalar.filled_literal (value : Scalar) : Filled value.literal ∧ Begins value.literal := by
  rcases value.isLiteral_literal with hnull | hnumber | ⟨content, hquoted⟩
  · rw [hnull]
    exact ⟨filled_of_passed rfl, 'N', _, rfl, by decide⟩
  · refine ⟨filled_of_kind hnumber.2 rfl rfl, ?_⟩
    obtain ⟨c, rest, htext⟩ := List.exists_cons_of_ne_nil hnumber.1
    have hc : isNumberChar c = true := hnumber.2 c (htext ▸ List.mem_cons_self)
    refine ⟨c, rest, htext, ?_⟩
    rintro rfl
    cases hc
  · rw [hquoted]
    refine ⟨filled_quoted content, '\x27', Text.doubled '\x27' content.toList ++ ['\x27'], ?_,
      by decide⟩
    rw [Text.quoted, String.toList_ofList]

/-- Literals that are joined, at least one. -/
lemma filled_literals {values : List Scalar} (hseparator : Filled separator) (hne : values ≠ []) :
    Filled (separator.intercalate (values.map Scalar.literal)) ∧
      Begins (separator.intercalate (values.map Scalar.literal)) := by
  have hliterals : ∀ text ∈ values.map Scalar.literal, Filled text ∧ Begins text := by
    intro text htext
    obtain ⟨value, -, rfl⟩ := List.mem_map.mp htext
    exact value.filled_literal
  refine ⟨filled_intercalate hseparator fun text htext => (hliterals text htext).1,
    begins_intercalate ?_ fun text htext => (hliterals text htext).2⟩
  rwa [Ne, List.map_eq_nil_iff]

/-! ## Conditions -/

/-- A comparison. -/
lemma Comparison.filled_text {comparison : Comparison}
    (hpath : isColumnPath comparison.field = true)
    (htakes : comparison.comparator.Takes comparison.operand) :
    Filled comparison.text ∧ Begins comparison.text := by
  obtain ⟨field, comparator, operand⟩ := comparison
  obtain ⟨hfield, hbegins⟩ := filled_columnPath hpath
  have hblank : Filled " " := filled_of_passed rfl
  have hsymbol : Filled comparator.symbol := filled_of_passed (by cases comparator <;> rfl)
  have hhead : Filled (field ++ " " ++ comparator.symbol) := (hfield.append hblank).append hsymbol
  have hbeginsHead : Begins (field ++ " " ++ comparator.symbol) :=
    (hbegins.append " ").append comparator.symbol
  rcases htakes with ⟨rfl, value, values, rfl⟩ | ⟨-, value, rfl⟩
  · have hcomma : Filled "," := filled_of_passed rfl
    obtain ⟨hliterals, hbeginsLiterals⟩ := filled_literals hcomma (List.cons_ne_nil value values)
    have htext : Comparison.text ⟨field, .oneOf, .list (value :: values)⟩ =
        field ++ " " ++ Comparator.oneOf.symbol ++ " " ++
          ("(" ++ ",".intercalate ((value :: values).map Scalar.literal) ++ ")") := by
      simp only [Comparison.text, String.append_assoc]
      rfl
    rw [htext]
    refine ⟨(hhead.append hblank).append (hliterals.parenthesized hbeginsLiterals), ?_⟩
    exact (hbeginsHead.append " ").append _
  · unfold Comparison.text
    split
    · exact ⟨hfield.append (filled_of_passed rfl), hbegins.append _⟩
    · exact ⟨hfield.append (filled_of_passed rfl), hbegins.append _⟩
    · rename_i present _ _ hpresent
      exact ⟨(hhead.append hblank).append present.filled_literal.1,
        (hbeginsHead.append " ").append _⟩
    · rename_i hlist
      cases hlist

namespace Condition

/-- A condition. -/
lemma WellFormed.filled_text {condition : Condition} (h : condition.WellFormed) :
    Filled condition.text ∧ Begins condition.text := by
  induction h with
  | comparison hpath htakes => exact Comparison.filled_text hpath htakes
  | @group connective members hlength _ ih =>
    have hkeyword : Filled (" " ++ connective.keyword ++ " ") := by
      cases connective <;> exact filled_of_passed rfl
    have hne : members.map text ≠ [] := by
      rw [Ne, List.map_eq_nil_iff, ← List.length_eq_zero_iff]
      omega
    have hmembers : ∀ inner ∈ members.map text, Filled inner ∧ Begins inner := by
      intro inner hinner
      obtain ⟨member, hmember, rfl⟩ := List.mem_map.mp hinner
      exact ih member hmember
    rw [text, texts_eq_map]
    refine ⟨?_, begins_parenthesized _⟩
    exact (filled_intercalate hkeyword fun inner hinner => (hmembers inner hinner).1).parenthesized
      (begins_intercalate hne fun inner hinner => (hmembers inner hinner).2)

/-- The clause of a condition. -/
lemma WellFormed.filled_clause {condition : Condition} (h : condition.WellFormed) :
    Filled condition.clause := by
  obtain ⟨hfilled, hbegins⟩ := h.filled_text
  cases condition with
  | comparison c => exact hfilled.parenthesized hbegins
  | group connective members => exact hfilled

end Condition

/-! ## Statements -/

namespace QueryStatement

lemma filled_whereText {condition : Option Condition}
    (h : ∀ present, condition = some present → present.WellFormed) :
    Filled (whereText condition) := by
  cases condition with
  | none => exact fun _ => rfl
  | some present =>
    have hword : Filled " WHERE " := filled_of_passed rfl
    exact hword.append (h present rfl).filled_clause

lemma filled_numberText {word : String} (hword : Filled word) (number : Option Int) :
    Filled (numberText word number) := by
  have hblank : Filled " " := filled_of_passed rfl
  cases number with
  | none => exact fun _ => rfl
  | some n =>
    have hnumber : Filled (toString n) := (Scalar.filled_literal (.int n)).1
    exact ((hblank.append hword).append hblank).append hnumber

lemma filled_orderText {order : List OrderTerm}
    (h : ∀ term ∈ order, isColumnPath term.column = true) : Filled (orderText order) := by
  unfold orderText
  split
  · exact fun _ => rfl
  · have hby : Filled " ORDER BY " := filled_of_passed rfl
    have hcomma : Filled ", " := filled_of_passed rfl
    refine hby.append (filled_intercalate hcomma fun text htext => ?_)
    obtain ⟨term, hterm, rfl⟩ := List.mem_map.mp htext
    have hcolumn : Filled term.column := (filled_columnPath (h term hterm)).1
    have hblank : Filled " " := filled_of_passed rfl
    have hdirection : Filled term.direction.keyword := by
      cases term.direction <;> exact filled_of_passed rfl
    exact (hcolumn.append hblank).append hdirection

/-- The values of a row, at least one. -/
lemma filled_tupleText {values : List Scalar} (hne : values ≠ []) : Filled (tupleText values) := by
  have hcomma : Filled ", " := filled_of_passed rfl
  obtain ⟨hliterals, hbegins⟩ := filled_literals hcomma hne
  exact hliterals.parenthesized hbegins

/-- The columns of a read; there may be none. -/
lemma filled_columns {columns : List String}
    (h : ∀ column ∈ columns, isColumnPath column = true) :
    Filled (if columns.isEmpty then "*" else ", ".intercalate columns) := by
  have hcomma : Filled ", " := filled_of_passed rfl
  split
  · exact filled_of_passed rfl
  · exact filled_intercalate hcomma fun column hcolumn => (filled_columnPath (h column hcolumn)).1

/-- The text of an insertion that has columns. -/
lemma filled_insert {table : String} {columns : List String} {rows : List (List Scalar)}
    (htable : Filled table)
    (hcolumns : ∀ column ∈ columns, isPlainName column = true) (hne : columns ≠ [])
    (hvalues : ∀ values ∈ rows, values ≠ []) :
    Filled (QueryStatement.insert table columns rows).sql := by
  have hcomma : Filled ", " := filled_of_passed rfl
  have hinsert : Filled "INSERT INTO " := filled_of_passed rfl
  have hblank : Filled " " := filled_of_passed rfl
  have hword : Filled " VALUES " := filled_of_passed rfl
  have hnames : Filled ("(" ++ ", ".intercalate columns ++ ")") :=
    (filled_intercalate hcomma fun column hcolumn =>
      (filled_plainName (hcolumns column hcolumn)).1).parenthesized
      (begins_intercalate hne fun column hcolumn => (filled_plainName (hcolumns column hcolumn)).2)
  have htuples : Filled (", ".intercalate (rows.map tupleText)) := by
    refine filled_intercalate hcomma fun inner hinner => ?_
    obtain ⟨values, hrow, rfl⟩ := List.mem_map.mp hinner
    exact filled_tupleText (hvalues values hrow)
  have hopening : " (" = " " ++ "(" := by decide
  have hclosing : ") VALUES " = ")" ++ " VALUES " := by decide
  have htext : (QueryStatement.insert table columns rows).sql =
      "INSERT INTO " ++ table ++ " " ++ ("(" ++ ", ".intercalate columns ++ ")") ++ " VALUES " ++
        ", ".intercalate (rows.map tupleText) :=
    calc (QueryStatement.insert table columns rows).sql
        = "INSERT INTO " ++ table ++ " (" ++ ", ".intercalate columns ++ ") VALUES " ++
            ", ".intercalate (rows.map tupleText) := rfl
      _ = "INSERT INTO " ++ table ++ (" " ++ "(") ++ ", ".intercalate columns ++
            (")" ++ " VALUES ") ++ ", ".intercalate (rows.map tupleText) := by
          rw [← hopening, ← hclosing]
      _ = _ := by
          simp only [String.append_assoc, -String.reduceAppend]
  rw [htext]
  exact ((((hinsert.append htable).append hblank).append hnames).append hword).append htuples

/-- The text of an update. -/
lemma filled_update {table : String} {assignments : List (String × Scalar)}
    {condition : Option Condition} (htable : Filled table)
    (hassignments : ∀ assignment ∈ assignments, isPlainName assignment.1 = true)
    (hcondition : Filled (whereText condition)) :
    Filled (QueryStatement.update table assignments condition).sql := by
  have hcomma : Filled ", " := filled_of_passed rfl
  have hupdate : Filled "UPDATE " := filled_of_passed rfl
  have hset : Filled " SET " := filled_of_passed rfl
  have hsign : Filled " = " := filled_of_passed rfl
  have hlist : Filled (", ".intercalate (assignments.map assignmentText)) := by
    refine filled_intercalate hcomma fun inner hinner => ?_
    obtain ⟨assignment, hassignment, rfl⟩ := List.mem_map.mp hinner
    have hname : Filled assignment.1 := (filled_plainName (hassignments assignment hassignment)).1
    exact (hname.append hsign).append assignment.2.filled_literal.1
  exact (((hupdate.append htable).append hset).append hlist).append hcondition

/-- There is no empty pair of parentheses in the text of a statement. -/
lemma WellFormed.filled_sql {statement : QueryStatement} (h : statement.WellFormed) :
    Filled statement.sql := by
  cases h with
  | @select distinct columns table condition order limit offset htable hcolumns hcondition horder =>
    have hselect : Filled ("SELECT " ++ if distinct then "DISTINCT " else "") := by
      cases distinct <;> exact filled_of_passed rfl
    have hfrom : Filled " FROM " := filled_of_passed rfl
    have hlimit : Filled "LIMIT" := filled_of_passed rfl
    have hoffset : Filled "OFFSET" := filled_of_passed rfl
    exact ((((((hselect.append (filled_columns hcolumns)).append hfrom).append
      (filled_plainName htable).1).append (filled_whereText hcondition)).append
      (filled_orderText horder)).append (filled_numberText hlimit limit)).append
      (filled_numberText hoffset offset)
  | @count table condition htable hcondition =>
    -- the star stands between the parentheses
    have hcount : Filled "SELECT COUNT(*) AS count FROM " := fun _ => rfl
    exact (hcount.append (filled_plainName htable).1).append (filled_whereText hcondition)
  | @insert table columns rows htable hcolumns hne _ hvalues =>
    exact filled_insert (filled_plainName htable).1 hcolumns hne hvalues
  | @insertDefaults table htable =>
    have hinsert : Filled "INSERT INTO " := filled_of_passed rfl
    have hdefaults : Filled " DEFAULT VALUES" := filled_of_passed rfl
    exact (hinsert.append (filled_plainName htable).1).append hdefaults
  | @update table assignments condition htable hassignments hne hcondition =>
    exact filled_update (filled_plainName htable).1 hassignments (filled_whereText hcondition)
  | @delete table condition htable hcondition =>
    have hdelete : Filled "DELETE FROM " := filled_of_passed rfl
    exact (hdelete.append (filled_plainName htable).1).append (filled_whereText hcondition)

/-- Where the parentheses of a pair follow each other, a quoted text is open. -/
lemma WellFormed.odd_count_quotes {statement : QueryStatement} (h : statement.WellFormed)
    {before after : List Char} (hsplit : statement.sql.toList = before ++ '(' :: ')' :: after) :
    before.count '\x27' % 2 = 1 := by
  have hnone : hasEmptyPair false (statement.sql.toList ++ []) = false := h.filled_sql []
  rw [List.append_nil, hsplit] at hnone
  exact odd_count_of_hasEmptyPair hnone

end QueryStatement

/-! ## Queries -/

namespace Query

/-- Calls of which most leave something behind: a row, an assignment, a column, and texts that look
like empty groups. -/
def changedVerbs : List QueryCall :=
  [.insert (.object [("name", .string "()")]),
    .update (.object []) (.object [("city", .string "Rome")]),
    .distinct "city" (.object [("$or", .array [
      .object [("name", .object [("$in", .array [.string "()", .string "Ada"])])],
      .object [("age", .null)]])]),
    .findOne (.object []), .sort (.string "-age")]

/-- Whatever calls and renderings a query comes from, its parts have the form of queries.  When it
is rendered, the text is that of a statement all of whose names were checked and whose lists and
groups have their members, and outside of quoted texts no parenthesis is closed as soon as it is
opened. -/
theorem wellFormed_and_filled_of_reachable {table : String} {query : Query}
    (h : Reachable table query) :
    query.WellFormed ∧ ∀ sql, query.render = .ok sql →
      ∃ statement, query.finalize.statement = .ok statement ∧ statement.WellFormed ∧
        statement.sql = sql ∧ ∀ before after, sql.toList = before ++ '(' :: ')' :: after →
          before.count '\x27' % 2 = 1 := by
  have hquery : query.WellFormed := h.wellFormed
  refine ⟨hquery, fun sql hrender => ?_⟩
  obtain ⟨statement, hstatement, rfl⟩ := exists_of_map_eq_ok hrender
  have hfinalized : query.finalize.WellFormed := hquery.edit .finalize
  obtain ⟨hform, -⟩ := hfinalized.parts_of_statement query.finalized_finalize hstatement
  exact ⟨statement, hstatement, hform, rfl,
    fun before after hsplit => hform.odd_count_quotes hsplit⟩

/-- What earlier verbs leave behind does not reach the statement unchecked, and the empty group in a
text is no group. -/
theorem changed_verbs_wellFormed : ∃ query statement sql, Reachable "people" query ∧
    query.rows ≠ [] ∧ query.assignments ≠ [] ∧ query.render = .ok sql ∧
    query.finalize.statement = .ok statement ∧ statement.WellFormed ∧ statement.sql = sql ∧
    sql = "SELECT city FROM people WHERE (name IN (\x27()\x27,\x27Ada\x27) OR age IS NULL)" ++
      " ORDER BY age DESC LIMIT 1 OFFSET 0" := by
  have hrun : Except.toOption (do
      let start ← ofTable "people"
      let query ← start.callAll changedVerbs
      let sql ← query.render
      return (query.rows.isEmpty, query.assignments.isEmpty, sql)) = some (false, false,
        "SELECT city FROM people WHERE (name IN (\x27()\x27,\x27Ada\x27) OR age IS NULL)" ++
          " ORDER BY age DESC LIMIT 1 OFFSET 0") := by
    decide +kernel
  obtain ⟨start, hstart, hrun⟩ := exists_of_bind_eq_ok (eq_ok_of_toOption hrun)
  obtain ⟨query, hcalls, hrun⟩ := exists_of_bind_eq_ok hrun
  obtain ⟨sql, hrender, hrun⟩ := exists_of_bind_eq_ok hrun
  obtain ⟨hrows, hparts⟩ := Prod.mk.inj (Except.ok.inj hrun)
  obtain ⟨hassignments, rfl⟩ := Prod.mk.inj hparts
  have hreachable : Reachable "people" query := ⟨start, hstart, steps_of_callAll hcalls⟩
  obtain ⟨statement, hstatement, hform, hsql, -⟩ :=
    (wellFormed_and_filled_of_reachable hreachable).2 _ hrender
  refine ⟨query, statement, _, hreachable, ?_, ?_, hrender, hstatement, hform, hsql, rfl⟩
  · rintro hnil
    rw [hnil] at hrows
    cases hrows
  · rintro hnil
    rw [hnil] at hassignments
    cases hassignments

end Query

end DocTables
