import DocTables.Proofs.Query.Pieces
import DocTables.Proofs.Query.Spelling
import DocTables.Query.Statement

/-!
# The texts of statements are cut into their pieces

A statement is a list of pieces (`QueryStatement.pieces`), and its text is cut into just these
(`QueryStatement.WellFormed.parts_sql`): names and literals are never cut, and neither is a
condition, which always stands in parentheses.  Texts of which the names were not checked are not
concerned.
-/

namespace DocTables

open Place

/-! ## Names and literals -/

/-- A text of characters of names and of points is not cut. -/
lemma solid_of_word {word : String} (h : ∀ c ∈ word.toList, isNameRest c = true ∨ c = '.') :
    Solid word := by
  have hkind : ∀ c ∈ word.toList, (isNameRest c || c == '.') = true := by
    intro c hc
    rw [Bool.or_eq_true, beq_iff_eq]
    exact h c hc
  exact solid_of_kind hkind rfl

/-- The path of a column is one piece. -/
lemma solid_columnPath {path : String} (h : isColumnPath path = true) : Solid path := by
  obtain ⟨c, rest, hpath, hc, hrest⟩ := exists_of_isColumnPath h
  refine solid_of_word ?_
  rw [hpath]
  exact List.forall_mem_cons.mpr ⟨.inl (isNameRest_of_isNameStart hc), hrest⟩

lemma parts_columnPath {path : String} (h : isColumnPath path = true) : Parts path [path] := by
  obtain ⟨c, rest, hpath, -⟩ := exists_of_isColumnPath h
  refine (solid_columnPath h).parts fun hempty => ?_
  rw [hempty] at hpath
  cases hpath

/-- A plain name is one piece. -/
lemma parts_plainName {name : String} (h : isPlainName name = true) : Parts name [name] := by
  obtain ⟨c, rest, hname, -⟩ := exists_of_isPlainName h
  refine (solid_of_word fun d hd => .inl (isNameRest_of_mem_plain h d hd)).parts fun hempty => ?_
  rw [hempty] at hname
  cases hname

/-- A text that may be a keyword. -/
def isWord (text : String) : Bool := text ≠ "" && text.toList.all isNameRest

/-- A keyword is one piece. -/
lemma parts_keyword {word : String} (h : isWord word = true) : Parts word [word] := by
  simp only [isWord, Bool.and_eq_true, decide_eq_true_eq, List.all_eq_true] at h
  exact (solid_of_word fun c hc => .inl (h.2 c hc)).parts h.1

/-- Keywords with blanks between them are a piece each. -/
lemma parts_keywords {text : String} {words : List String} (htext : text = " ".intercalate words)
    (hne : words ≠ []) (h : words.all isWord = true) : Parts text words := by
  subst htext
  induction words with
  | nil => exact absurd rfl hne
  | cons word rest ih =>
    rw [List.all_cons, Bool.and_eq_true] at h
    obtain ⟨hword, hrest⟩ := h
    cases rest with
    | nil =>
      rw [String.intercalate_singleton]
      exact parts_keyword hword
    | cons second others =>
      rw [String.intercalate_cons_cons]
      exact (parts_keyword hword).blank (ih (List.cons_ne_nil _ _) hrest)

/-- A number is not cut. -/
lemma solid_of_isNumberText {text : String} (h : IsNumberText text.toList) : Solid text :=
  solid_of_kind h.2 rfl

/-- A literal is not cut, whatever characters are in it. -/
lemma Scalar.solid_literal (value : Scalar) : Solid value.literal := by
  rcases value.isLiteral_literal with hnull | hnumber | ⟨content, hquoted⟩
  · rw [hnull]
    exact solid_of_word fun c hc => .inl (List.all_eq_true.mp rfl c hc)
  · exact solid_of_isNumberText hnumber
  · rw [hquoted]
    exact solid_quoted content

/-- A literal is one piece. -/
lemma Scalar.parts_literal (value : Scalar) : Parts value.literal [value.literal] := by
  refine value.solid_literal.parts fun hempty => ?_
  rcases value.isLiteral_literal with hnull | hnumber | ⟨content, hquoted⟩
  · rw [hempty] at hnull
    exact absurd hnull (by decide)
  · rw [hempty] at hnumber
    exact hnumber.1 rfl
  · rw [hempty] at hquoted
    have hlist := congrArg String.toList hquoted
    simp [Text.quoted] at hlist

/-! ## Conditions -/

/-- A comparison may stand between parentheses. -/
lemma Comparison.inside_text {comparison : Comparison}
    (hpath : isColumnPath comparison.field = true) : Inside comparison.text := by
  obtain ⟨field, comparator, operand⟩ := comparison
  have hfield : Inside field := (solid_columnPath hpath).inside
  have hsymbol : Inside comparator.symbol := inside_of_still (by cases comparator <;> rfl)
  have hblank : Inside " " := inside_of_still rfl
  have hcomma : Inside "," := inside_of_still rfl
  unfold Comparison.text
  split
  · exact hfield.append (inside_of_still rfl)
  · exact hfield.append (inside_of_still rfl)
  · rename_i value _ _ hvalue
    exact (((hfield.append hblank).append hsymbol).append hblank).append value.solid_literal.inside
  · rename_i values hvalues
    have hliterals : Inside (",".intercalate (values.map Scalar.literal)) := by
      refine inside_intercalate hcomma fun literal hliteral => ?_
      obtain ⟨value, -, rfl⟩ := List.mem_map.mp hliteral
      exact value.solid_literal.inside
    have hlist := (((hfield.append hblank).append hsymbol).append hblank).append
      hliterals.parenthesized.inside
    have htext : field ++ " " ++ comparator.symbol ++ " (" ++
        ",".intercalate (values.map Scalar.literal) ++ ")" =
        field ++ " " ++ comparator.symbol ++ " " ++
          ("(" ++ ",".intercalate (values.map Scalar.literal) ++ ")") := by
      simp only [String.append_assoc]
      rfl
    rw [htext]
    exact hlist

namespace Condition

/-- The members of a group may stand between parentheses. -/
lemma inside_members (connective : Connective) {members : List Condition}
    (h : ∀ member ∈ members, Inside member.text) :
    Inside ((" " ++ connective.keyword ++ " ").intercalate (texts members)) := by
  have hkeyword : Inside (" " ++ connective.keyword ++ " ") := by
    cases connective <;> exact inside_of_still rfl
  rw [texts_eq_map]
  refine inside_intercalate hkeyword fun text htext => ?_
  obtain ⟨member, hmember, rfl⟩ := List.mem_map.mp htext
  exact h member hmember

/-- A condition may stand between parentheses. -/
lemma WellFormed.inside_text {condition : Condition} (h : condition.WellFormed) :
    Inside condition.text := by
  induction h with
  | comparison hpath _ => exact Comparison.inside_text hpath
  | @group connective members _ _ ih => exact (inside_members connective ih).parenthesized.inside

/-- The clause of a condition is one piece. -/
lemma WellFormed.parts_clause {condition : Condition} (h : condition.WellFormed) :
    Parts condition.clause [condition.clause] := by
  have hparenthesized : ∃ inner, condition.clause = "(" ++ inner ++ ")" ∧ Inside inner := by
    cases h with
    | @comparison c hpath _ => exact ⟨c.text, rfl, Comparison.inside_text hpath⟩
    | @group connective members _ hmembers =>
      exact ⟨_, rfl, inside_members connective fun member hmember =>
        (hmembers member hmember).inside_text⟩
  obtain ⟨inner, hclause, hinner⟩ := hparenthesized
  rw [hclause]
  exact hinner.parts

end Condition

/-! ## Statements -/

namespace QueryStatement

/-- Items with commas between them. -/
abbrev listPieces (items : List (List String)) : List String := [","].intercalate items

/-- The pieces of the clause with the condition. -/
def conditionPieces : Option Condition → List String
  | none => []
  | some condition => ["WHERE", condition.clause]

/-- The pieces of a term of an order. -/
def termPieces (term : OrderTerm) : List String := [term.column, term.direction.keyword]

/-- The pieces of the clause with the order. -/
def orderPieces (order : List OrderTerm) : List String :=
  if order.isEmpty then [] else "ORDER" :: "BY" :: listPieces (order.map termPieces)

/-- The pieces of a clause that consists of a word and a number. -/
def numberPieces (word : String) : Option Int → List String
  | none => []
  | some n => [word, toString n]

/-- The pieces of the columns of a read. -/
def columnPieces (columns : List String) : List String :=
  if columns.isEmpty then ["*"] else listPieces (columns.map fun column => [column])

/-- The pieces of an assignment. -/
def assignmentPieces (assignment : String × Scalar) : List String :=
  [assignment.1, "=", assignment.2.literal]

/-- The columns of an insertion in their parentheses. -/
def columnsText (columns : List String) : String := "(" ++ ", ".intercalate columns ++ ")"

/-- The pieces of a statement. -/
def pieces : QueryStatement → List String
  | .select distinct columns table condition order limit offset =>
    (if distinct then ["SELECT", "DISTINCT"] else ["SELECT"]) ++ columnPieces columns ++
      ["FROM", table] ++ conditionPieces condition ++ orderPieces order ++
      numberPieces "LIMIT" limit ++ numberPieces "OFFSET" offset
  | .count table condition =>
    ["SELECT", "COUNT(*)", "AS", "count", "FROM", table] ++ conditionPieces condition
  | .insert table columns rows =>
    ["INSERT", "INTO", table, columnsText columns, "VALUES"] ++
      listPieces (rows.map fun values => [tupleText values])
  | .insertDefaults table => ["INSERT", "INTO", table, "DEFAULT", "VALUES"]
  | .update table assignments condition =>
    ["UPDATE", table, "SET"] ++ listPieces (assignments.map assignmentPieces) ++
      conditionPieces condition
  | .delete table condition => ["DELETE", "FROM", table] ++ conditionPieces condition

/-- The names of a statement were checked, its condition has the form of conditions, and no list
that must have an item is empty. -/
inductive WellFormed : QueryStatement → Prop
  | select {distinct : Bool} {columns : List String} {table : String} {condition : Option Condition}
    {order : List OrderTerm} {limit offset : Option Int}
    (htable : isPlainName table = true) (hcolumns : ∀ column ∈ columns, isColumnPath column = true)
    (hcondition : ∀ present, condition = some present → present.WellFormed)
    (horder : ∀ term ∈ order, isColumnPath term.column = true) :
    WellFormed (.select distinct columns table condition order limit offset)
  | count {table : String} {condition : Option Condition} (htable : isPlainName table = true)
    (hcondition : ∀ present, condition = some present → present.WellFormed) :
    WellFormed (.count table condition)
  | insert {table : String} {columns : List String} {rows : List (List Scalar)}
    (htable : isPlainName table = true) (hcolumns : ∀ column ∈ columns, isPlainName column = true)
    (hne : columns ≠ []) (hrows : rows ≠ []) (hvalues : ∀ values ∈ rows, values ≠ []) :
    WellFormed (.insert table columns rows)
  | insertDefaults {table : String} (htable : isPlainName table = true) :
    WellFormed (.insertDefaults table)
  | update {table : String} {assignments : List (String × Scalar)} {condition : Option Condition}
    (htable : isPlainName table = true)
    (hassignments : ∀ assignment ∈ assignments, isPlainName assignment.1 = true)
    (hne : assignments ≠ [])
    (hcondition : ∀ present, condition = some present → present.WellFormed) :
    WellFormed (.update table assignments condition)
  | delete {table : String} {condition : Option Condition} (htable : isPlainName table = true)
    (hcondition : ∀ present, condition = some present → present.WellFormed) :
    WellFormed (.delete table condition)

/-! ## Clauses -/

/-- A clause of two words. -/
lemma clause_words {word body : String} {list : List String} (hword : Parts word [word])
    (hbody : Parts body list) : Clause (" " ++ word ++ " " ++ body) (word :: list) := by
  refine .inr ⟨word ++ " " ++ body, ?_, hword.blank hbody⟩
  simp only [String.append_assoc]

lemma clause_whereText {condition : Option Condition}
    (h : ∀ present, condition = some present → present.WellFormed) :
    Clause (whereText condition) (conditionPieces condition) := by
  cases condition with
  | none => exact .inl ⟨rfl, rfl⟩
  | some present =>
    have hword : Parts "WHERE" ["WHERE"] := parts_keyword rfl
    exact clause_words hword (h present rfl).parts_clause

lemma clause_numberText {word : String} (hword : Parts word [word]) (number : Option Int) :
    Clause (numberText word number) (numberPieces word number) := by
  cases number with
  | none => exact .inl ⟨rfl, rfl⟩
  | some n => exact clause_words hword (Scalar.parts_literal (.int n))

/-- A term of an order is its column and its direction. -/
lemma parts_term {term : OrderTerm} (h : isColumnPath term.column = true) :
    Parts term.text (termPieces term) := by
  have hdirection : Parts term.direction.keyword [term.direction.keyword] := by
    cases term.direction <;> exact parts_keyword rfl
  exact (parts_columnPath h).blank hdirection

/-- Texts of items that are each cut into their pieces. -/
lemma parts_list {α : Type} {items : List α} {text : α → String} {spelled : α → List String}
    (hne : items ≠ []) (h : ∀ item ∈ items, Parts (text item) (spelled item)) :
    Parts (", ".intercalate (items.map text)) (listPieces (items.map spelled)) := by
  refine parts_intercalate ?_ ?_
  · rwa [Ne, List.map_eq_nil_iff]
  · rw [List.forall₂_map_left_iff, List.forall₂_map_right_iff, List.forall₂_same]
    exact h

lemma clause_orderText {order : List OrderTerm}
    (h : ∀ term ∈ order, isColumnPath term.column = true) :
    Clause (orderText order) (orderPieces order) := by
  cases order with
  | nil => exact .inl ⟨rfl, rfl⟩
  | cons first rest =>
    have hterms : Parts (", ".intercalate ((first :: rest).map OrderTerm.text))
        (listPieces ((first :: rest).map termPieces)) :=
      parts_list (List.cons_ne_nil _ _) fun term hterm => parts_term (h term hterm)
    have hword : Parts "ORDER" ["ORDER"] := parts_keyword rfl
    have hby : Parts "BY" ["BY"] := parts_keyword rfl
    have hclause := clause_words hword (hby.blank hterms)
    have htext : orderText (first :: rest) = " " ++ "ORDER" ++ " " ++
        ("BY" ++ " " ++ ", ".intercalate ((first :: rest).map OrderTerm.text)) := by
      simp only [orderText, List.isEmpty_cons, Bool.false_eq_true, if_false, ← String.append_assoc]
      rfl
    rw [htext]
    exact hclause

/-! ## Whole statements -/

/-- The columns of a read. -/
lemma parts_columns {columns : List String} (h : ∀ column ∈ columns, isColumnPath column = true) :
    Parts (if columns.isEmpty then "*" else ", ".intercalate columns) (columnPieces columns) := by
  cases columns with
  | nil => exact (solid_of_uncut rfl).parts (by decide)
  | cons first rest =>
    have hlist := parts_list (List.cons_ne_nil first rest) fun column hcolumn =>
      parts_columnPath (h column hcolumn)
    rw [List.map_id'] at hlist
    exact hlist

/-- A table after a keyword. -/
lemma parts_table {head : String} {words : List String} {table : String} (hhead : Parts head words)
    (htable : isPlainName table = true) : Parts (head ++ " " ++ table) (words ++ [table]) :=
  hhead.blank (parts_plainName htable)

/-- The text of a read. -/
lemma parts_select (distinct : Bool) {columns : List String} {table : String}
    {condition : Option Condition} {order : List OrderTerm} (limit offset : Option Int)
    (htable : isPlainName table = true) (hcolumns : ∀ column ∈ columns, isColumnPath column = true)
    (hcondition : ∀ present, condition = some present → present.WellFormed)
    (horder : ∀ term ∈ order, isColumnPath term.column = true) :
    Parts (select distinct columns table condition order limit offset).sql
      (select distinct columns table condition order limit offset).pieces := by
  have hverb : Parts (if distinct then "SELECT DISTINCT" else "SELECT")
      (if distinct then ["SELECT", "DISTINCT"] else ["SELECT"]) := by
    cases distinct with
    | true => exact parts_keywords rfl (by decide) rfl
    | false => exact parts_keyword rfl
  have hfrom : Parts "FROM" ["FROM"] := parts_keyword rfl
  have hlimit : Parts "LIMIT" ["LIMIT"] := parts_keyword rfl
  have hoffset : Parts "OFFSET" ["OFFSET"] := parts_keyword rfl
  have hread : Parts ("SELECT " ++ (if distinct then "DISTINCT " else "") ++
      (if columns.isEmpty then "*" else ", ".intercalate columns) ++ " FROM " ++ table)
      ((if distinct then ["SELECT", "DISTINCT"] else ["SELECT"]) ++ columnPieces columns ++
        ["FROM", table]) := by
    have htext : "SELECT " ++ (if distinct then "DISTINCT " else "") ++
        (if columns.isEmpty then "*" else ", ".intercalate columns) ++ " FROM " ++ table =
        (if distinct then "SELECT DISTINCT" else "SELECT") ++ " " ++
          (if columns.isEmpty then "*" else ", ".intercalate columns) ++ " " ++
          ("FROM" ++ " " ++ table) := by
      refine String.toList_inj.mp ?_
      cases distinct <;> simp
    rw [htext]
    exact (hverb.blank (parts_columns hcolumns)).blank (parts_table hfrom htable)
  exact (((hread.clause (clause_whereText hcondition)).clause (clause_orderText horder)).clause
    (clause_numberText hlimit limit)).clause (clause_numberText hoffset offset)

/-- The text of a count. -/
lemma parts_count {table : String} {condition : Option Condition}
    (htable : isPlainName table = true)
    (hcondition : ∀ present, condition = some present → present.WellFormed) :
    Parts (count table condition).sql (count table condition).pieces := by
  have hselect : Parts "SELECT" ["SELECT"] := parts_keyword rfl
  have hcount : Parts "COUNT(*)" ["COUNT(*)"] := by
    have hword : Solid "COUNT" := solid_of_uncut rfl
    have hstar : Inside "*" := inside_of_still rfl
    exact (hword.append hstar.parenthesized).parts (by decide)
  have hname : Parts "AS count FROM" ["AS", "count", "FROM"] :=
    parts_keywords rfl (by decide) rfl
  have hread := (hselect.blank hcount).blank (parts_table hname htable)
  have htext : "SELECT COUNT(*) AS count FROM " ++ table =
      "SELECT" ++ " " ++ "COUNT(*)" ++ " " ++ ("AS count FROM" ++ " " ++ table) := by
    refine String.toList_inj.mp ?_
    simp
  rw [← htext] at hread
  exact hread.clause (clause_whereText hcondition)

/-- The text of a row. -/
lemma parts_tuple {values : List Scalar} : Parts (tupleText values) [tupleText values] := by
  have hcomma : Inside ", " := inside_of_still rfl
  have hliterals : Inside (", ".intercalate (values.map Scalar.literal)) := by
    refine inside_intercalate hcomma fun literal hliteral => ?_
    obtain ⟨value, -, rfl⟩ := List.mem_map.mp hliteral
    exact value.solid_literal.inside
  exact hliterals.parts

/-- The text of an insertion. -/
lemma parts_insert {table : String} {columns : List String} {rows : List (List Scalar)}
    (htable : isPlainName table = true) (hcolumns : ∀ column ∈ columns, isPlainName column = true)
    (hrows : rows ≠ []) :
    Parts (insert table columns rows).sql (insert table columns rows).pieces := by
  have hinsert : Parts "INSERT INTO" ["INSERT", "INTO"] :=
    parts_keywords rfl (by decide) rfl
  have hvalues : Parts "VALUES" ["VALUES"] := parts_keyword rfl
  have hnames : Parts (columnsText columns) [columnsText columns] := by
    have hcomma : Inside ", " := inside_of_still rfl
    have hinner : Inside (", ".intercalate columns) :=
      inside_intercalate hcomma fun column hcolumn =>
        (solid_of_word fun c hc =>
          .inl (isNameRest_of_mem_plain (hcolumns column hcolumn) c hc)).inside
    exact hinner.parts
  have hlist : Parts (", ".intercalate (rows.map tupleText))
      (listPieces (rows.map fun values => [tupleText values])) :=
    parts_list hrows fun values _ => parts_tuple
  have hall := (((parts_table hinsert htable).blank hnames).blank hvalues).blank hlist
  have htext : "INSERT INTO " ++ table ++ " (" ++ ", ".intercalate columns ++ ") VALUES " ++
      ", ".intercalate (rows.map tupleText) = "INSERT INTO" ++ " " ++ table ++ " " ++
      columnsText columns ++ " " ++ "VALUES" ++ " " ++ ", ".intercalate (rows.map tupleText) := by
    refine String.toList_inj.mp ?_
    simp [columnsText]
  rw [← htext] at hall
  exact hall

/-- The text of the insertion of a row of defaults. -/
lemma parts_insertDefaults {table : String} (htable : isPlainName table = true) :
    Parts (insertDefaults table).sql (insertDefaults table).pieces := by
  have hinsert : Parts "INSERT INTO" ["INSERT", "INTO"] :=
    parts_keywords rfl (by decide) rfl
  have hdefaults : Parts "DEFAULT VALUES" ["DEFAULT", "VALUES"] :=
    parts_keywords rfl (by decide) rfl
  have hall := (parts_table hinsert htable).blank hdefaults
  have htext : "INSERT INTO " ++ table ++ " DEFAULT VALUES" =
      "INSERT INTO" ++ " " ++ table ++ " " ++ "DEFAULT VALUES" := by
    refine String.toList_inj.mp ?_
    simp
  rw [← htext] at hall
  exact hall

/-- The text of an assignment. -/
lemma parts_assignment {assignment : String × Scalar} (h : isPlainName assignment.1 = true) :
    Parts (assignmentText assignment) (assignmentPieces assignment) := by
  have hsign : Parts "=" ["="] :=
    (solid_of_uncut rfl).parts (by decide)
  have htext : assignmentText assignment =
      assignment.1 ++ " " ++ "=" ++ " " ++ assignment.2.literal := by
    refine String.toList_inj.mp ?_
    simp [assignmentText]
  rw [htext]
  exact ((parts_plainName h).blank hsign).blank assignment.2.parts_literal

/-- The text of an update. -/
lemma parts_update {table : String} {assignments : List (String × Scalar)}
    {condition : Option Condition} (htable : isPlainName table = true)
    (hassignments : ∀ assignment ∈ assignments, isPlainName assignment.1 = true)
    (hne : assignments ≠ [])
    (hcondition : ∀ present, condition = some present → present.WellFormed) :
    Parts (update table assignments condition).sql (update table assignments condition).pieces := by
  have hupdate : Parts "UPDATE" ["UPDATE"] := parts_keyword rfl
  have hset : Parts "SET" ["SET"] := parts_keyword rfl
  have hlist : Parts (", ".intercalate (assignments.map assignmentText))
      (listPieces (assignments.map assignmentPieces)) :=
    parts_list hne fun assignment hassignment => parts_assignment (hassignments _ hassignment)
  have hall := ((parts_table hupdate htable).blank hset).blank hlist
  have htext : "UPDATE " ++ table ++ " SET " ++ ", ".intercalate (assignments.map assignmentText) =
      "UPDATE" ++ " " ++ table ++ " " ++ "SET" ++ " " ++
        ", ".intercalate (assignments.map assignmentText) := by
    refine String.toList_inj.mp ?_
    simp
  rw [← htext] at hall
  exact hall.clause (clause_whereText hcondition)

/-- The text of a removal. -/
lemma parts_delete {table : String} {condition : Option Condition}
    (htable : isPlainName table = true)
    (hcondition : ∀ present, condition = some present → present.WellFormed) :
    Parts (delete table condition).sql (delete table condition).pieces := by
  have hdelete : Parts "DELETE FROM" ["DELETE", "FROM"] :=
    parts_keywords rfl (by decide) rfl
  have hall := parts_table hdelete htable
  have htext : "DELETE FROM " ++ table = "DELETE FROM" ++ " " ++ table := by
    refine String.toList_inj.mp ?_
    simp
  rw [← htext] at hall
  exact hall.clause (clause_whereText hcondition)

/-- The text of a statement is cut into its pieces. -/
lemma WellFormed.parts_sql {statement : QueryStatement} (h : statement.WellFormed) :
    Parts statement.sql statement.pieces := by
  cases h with
  | select htable hcolumns hcondition horder =>
    exact parts_select _ _ _ htable hcolumns hcondition horder
  | count htable hcondition => exact parts_count htable hcondition
  | insert htable hcolumns _ hrows _ => exact parts_insert htable hcolumns hrows
  | insertDefaults htable => exact parts_insertDefaults htable
  | update htable hassignments hne hcondition =>
    exact parts_update htable hassignments hne hcondition
  | delete htable hcondition => exact parts_delete htable hcondition

end QueryStatement

end DocTables
