import DocTables.Proofs.Query.Edits
import DocTables.Proofs.Query.StatementReader
import DocTables.Proofs.Query.StatementText

/-!
# Statements determine what they say

Whatever calls a query was built by, the text it is rendered to is read back as what the query holds
(`Query.ofText?_render`): its verb and table, the columns and rows, the assignments, the condition,
the order and the limits.  No part is lost, no two are merged, and nothing that stands in a text of
a value is taken for a part of the statement.

The text of a statement is cut into its pieces, which is said elsewhere; here the pieces are read
back (`QueryStatement.WellFormed.ofPieces?_pieces`), and the statement of a query is compared with
the query.
-/

namespace DocTables

namespace StatementParts

open QueryStatement (listPieces)

/-! ## Reading lists -/

section Lists

variable {α β : Type} {read : List String → Option (β × List String)} {spelled : α → List String}
  {value : α → β} {items : List α} {list rest : List String}

/-- The last item is the one without a comma after it. -/
lemma readList_last {last : β} (bound : Nat) (hread : read list = some (last, rest))
    (hrest : rest.head? ≠ some ",") : readList read (bound + 1) list = some ([last], rest) := by
  rw [readList, hread]
  cases rest with
  | nil => rfl
  | cons piece others =>
    have hpiece : piece ≠ "," := fun heq => hrest (congrArg some heq)
    simp only
    split
    · rename_i heq
      obtain ⟨-, hlist⟩ := Prod.mk.inj (Option.some.inj heq)
      exact absurd (List.cons.inj hlist).1 hpiece
    · rename_i heq
      obtain ⟨rfl, rfl⟩ := Prod.mk.inj (Option.some.inj heq)
      rfl
    · rename_i heq
      cases heq

/-- Items that are each read as they should be are read one after the other. -/
lemma readList_of_le {bound : Nat} (hne : items ≠ [])
    (hread : ∀ item ∈ items, ∀ rest, read (spelled item ++ rest) = some (value item, rest))
    (hrest : rest.head? ≠ some ",") (hbound : items.length ≤ bound) :
    readList read bound (listPieces (items.map spelled) ++ rest) =
      some (items.map value, rest) := by
  induction items generalizing bound with
  | nil => exact absurd rfl hne
  | cons first others ih =>
    obtain ⟨hfirst, hothers⟩ := List.forall_mem_cons.mp hread
    obtain ⟨below, rfl⟩ : ∃ below, bound = below + 1 := by
      rw [List.length_cons] at hbound
      exact ⟨bound - 1, by omega⟩
    cases others with
    | nil =>
      rw [List.map_singleton, List.map_singleton, listPieces, List.intercalate_singleton]
      exact readList_last below (hfirst rest) hrest
    | cons second more =>
      have hbelow : (second :: more).length ≤ below := Nat.le_of_succ_le_succ hbound
      have hlater := ih (List.cons_ne_nil _ _) hothers hbelow
      rw [List.map_cons, List.map_cons, listPieces, List.intercalate_cons_cons, ← List.map_cons,
        List.append_assoc, List.append_assoc, readList, hfirst]
      simp only [List.singleton_append]
      rw [hlater]
      rfl

/-- There are not more items than pieces. -/
lemma length_le_listPieces (hspelled : ∀ item ∈ items, spelled item ≠ []) :
    items.length ≤ (listPieces (items.map spelled)).length := by
  induction items with
  | nil => exact Nat.zero_le _
  | cons first others ih =>
    obtain ⟨hfirst, hothers⟩ := List.forall_mem_cons.mp hspelled
    have hpositive : 0 < (spelled first).length := List.length_pos_of_ne_nil hfirst
    cases others with
    | nil =>
      rw [List.map_singleton, listPieces, List.intercalate_singleton, List.length_singleton]
      exact hpositive
    | cons second more =>
      have hlater := ih hothers
      rw [listPieces, List.map_cons] at hlater
      rw [List.map_cons, List.map_cons, listPieces, List.intercalate_cons_cons, List.length_append,
        List.length_append, List.length_cons]
      omega

/-- A list is read back from its pieces. -/
lemma readList_listPieces (hne : items ≠ []) (hspelled : ∀ item ∈ items, spelled item ≠ [])
    (hread : ∀ item ∈ items, ∀ rest, read (spelled item ++ rest) = some (value item, rest))
    (hrest : rest.head? ≠ some ",") :
    readList read (listPieces (items.map spelled) ++ rest).length
        (listPieces (items.map spelled) ++ rest) = some (items.map value, rest) := by
  have hlength := length_le_listPieces hspelled
  refine readList_of_le hne hread hrest ?_
  rw [List.length_append]
  omega

end Lists

/-- Pieces with commas between them are read as they stand. -/
lemma readList_readPiece {items rest : List String} (hne : items ≠ [])
    (hrest : rest.head? ≠ some ",") :
    readList readPiece (listPieces (items.map fun item => [item]) ++ rest).length
        (listPieces (items.map fun item => [item]) ++ rest) = some (items, rest) := by
  have hread : ∀ item ∈ items, ∀ rest, readPiece ([item] ++ rest) = some (id item, rest) :=
    fun item _ rest => rfl
  have hlist := readList_listPieces hne (fun item _ => List.cons_ne_nil item []) hread hrest
  rwa [List.map_id] at hlist

/-- A text in parentheses is read as the items in it. -/
lemma tuple?_of_parts {items : List String} (hne : items ≠ [])
    (hitems : ∀ item ∈ items, Parts item [item]) :
    tuple? ("(" ++ ", ".intercalate items ++ ")") = some items := by
  have hparts := QueryStatement.parts_list hne hitems
  have htext : ("(" ++ ", ".intercalate items ++ ")").toList =
      '(' :: ((", ".intercalate items).toList ++ [')']) := by
    rw [String.toList_append, String.toList_append]
    rfl
  have hend : ([] : List String).head? ≠ some "," := by simp
  have hread := readList_readPiece hne hend
  rw [List.map_id'] at hparts
  rw [List.append_nil] at hread
  simp only [tuple?, htext, List.getLast?_concat, if_true, List.dropLast_concat,
    String.ofList_toList, hparts.pieces_eq, hread]

/-! ## Reading clauses -/

open QueryStatement

/-- What comes after the condition begins with a keyword of its own. -/
lemma head?_orderPieces (order : List OrderTerm) (limit offset : Option Int) :
    ∀ piece ∈ (orderPieces order ++
        (numberPieces "LIMIT" limit ++ numberPieces "OFFSET" offset)).head?,
      piece ∈ ["ORDER", "LIMIT", "OFFSET"] := by
  cases order <;> cases limit <;> cases offset <;> simp [orderPieces, numberPieces]

/-- What comes after the order begins with a keyword of its own. -/
lemma head?_numberPieces (limit offset : Option Int) :
    ∀ piece ∈ (numberPieces "LIMIT" limit ++ numberPieces "OFFSET" offset).head?,
      piece ∈ ["LIMIT", "OFFSET"] := by
  cases limit <;> cases offset <;> simp [numberPieces]

/-- A list whose first piece is one of some words does not begin with another one. -/
lemma head?_ne {list words : List String} {word : String}
    (h : ∀ piece ∈ list.head?, piece ∈ words) (hword : word ∉ words) : list.head? ≠ some word :=
  fun hhead => hword (h word hhead)

/-- The condition is read back from its clause. -/
lemma readCondition_conditionPieces (condition : Option Condition) {rest : List String}
    (hrest : rest.head? ≠ some "WHERE") :
    readCondition (conditionPieces condition ++ rest) = (condition.map Condition.clause, rest) := by
  cases condition with
  | some present => rfl
  | none =>
    rw [conditionPieces, List.nil_append, readCondition.eq_def]
    split
    · exact absurd rfl hrest
    · rfl

/-- The order is read back from its clause. -/
lemma readOrder_orderPieces (order : List OrderTerm) {rest : List String}
    (hrest : ∀ piece ∈ rest.head?, piece ∈ ["LIMIT", "OFFSET"]) :
    readOrder (orderPieces order ++ rest) = some (order, rest) := by
  cases order with
  | nil =>
    rw [orderPieces, List.isEmpty_nil, if_pos rfl, List.nil_append, readOrder.eq_def]
    split
    · exact absurd rfl (head?_ne hrest (by decide))
    · rfl
  | cons first others =>
    have hterm : ∀ term ∈ first :: others, ∀ rest,
        readTerm (termPieces term ++ rest) = some (id term, rest) := by
      rintro ⟨column, direction⟩ - rest
      cases direction <;> rfl
    have hterms := readList_listPieces (List.cons_ne_nil first others)
      (fun term _ => List.cons_ne_nil term.column [term.direction.keyword]) hterm
      (head?_ne hrest (by decide))
    rw [List.map_id] at hterms
    exact hterms

/-- A number is read back from its clause. -/
lemma readNumber_numberPieces (word : String) (number : Option Int) {rest : List String}
    (hrest : rest.head? ≠ some word) :
    readNumber word (numberPieces word number ++ rest) = some (number, rest) := by
  cases number with
  | some n =>
    have hnumber : readNumber word (word :: toString n :: rest) =
        (integer? (toString n)).map fun n => (some n, rest) := by
      rw [readNumber, if_pos rfl]
    rw [numberPieces, List.cons_append, List.singleton_append, hnumber, integer?_toString]
    rfl
  | none =>
    rw [numberPieces, List.nil_append]
    cases rest with
    | nil => rfl
    | cons piece others =>
      have hpiece : piece ≠ word := fun heq => hrest (congrArg some heq)
      simp only [readNumber, if_neg hpiece]

/-- The clauses that may come last are read back. -/
lemma withClauses_pieces (parts : StatementParts) (condition : Option Condition)
    (order : List OrderTerm) (limit offset : Option Int) :
    withClauses parts (conditionPieces condition ++
        (orderPieces order ++ (numberPieces "LIMIT" limit ++ numberPieces "OFFSET" offset))) =
      some { parts with
        condition := condition.map Condition.clause, order := order, limit := limit
        offset := offset } := by
  have hcondition := readCondition_conditionPieces condition
    (head?_ne (head?_orderPieces order limit offset) (by decide : "WHERE" ∉ _))
  have horder := readOrder_orderPieces order (head?_numberPieces limit offset)
  have hoffsetHead : (numberPieces "OFFSET" offset).head? ≠ some "LIMIT" := by
    cases offset <;> simp [numberPieces]
  have hlimit := readNumber_numberPieces "LIMIT" limit hoffsetHead
  have hoffset : readNumber "OFFSET" (numberPieces "OFFSET" offset ++ []) = some (offset, []) :=
    readNumber_numberPieces "OFFSET" offset (by simp)
  rw [List.append_nil] at hoffset
  simp only [withClauses, hcondition, horder, hlimit, hoffset, Option.bind_eq_bind,
    Option.bind_some, List.isEmpty_nil, if_true]

/-- A condition that comes last is read back. -/
lemma withClauses_conditionPieces (parts : StatementParts) (condition : Option Condition) :
    withClauses parts (conditionPieces condition) =
      some { parts with
        condition := condition.map Condition.clause, order := [], limit := none
        offset := none } := by
  have hclauses := withClauses_pieces parts condition [] none none
  simp only [orderPieces, numberPieces, List.isEmpty_nil, if_true, List.append_nil] at hclauses
  exact hclauses

/-- The columns of a read are read back, and after them the table and the clauses. -/
lemma readColumns_columnPieces (verb : Verb) {columns : List String} (table : String)
    (rest : List String) (hcolumns : ∀ column ∈ columns, isColumnPath column = true) :
    readColumns verb (columnPieces columns ++ "FROM" :: table :: rest) =
      withClauses { verb := verb, table := table, columns := columns } rest := by
  cases columns with
  | nil => rfl
  | cons first others =>
    have hstar : first ≠ "*" := by
      rintro rfl
      exact absurd (hcolumns "*" List.mem_cons_self) (by decide)
    have hfrom : ("FROM" :: table :: rest).head? ≠ some "," := by simp
    have hread := readList_readPiece (List.cons_ne_nil first others) hfrom
    have hhead : ∃ more, listPieces ((first :: others).map fun column => [column]) ++
        "FROM" :: table :: rest = first :: more := by
      cases others with
      | nil => exact ⟨_, rfl⟩
      | cons second more => exact ⟨_, rfl⟩
    obtain ⟨more, hmore⟩ := hhead
    rw [columnPieces, List.isEmpty_cons, if_neg Bool.false_ne_true]
    rw [hmore] at hread ⊢
    rw [readColumns.eq_def]
    split
    · rename_i heq
      exact absurd (List.cons.inj heq).1 hstar
    · rw [hread]
      rfl

/-- The columns of an insertion are read back from their parentheses. -/
lemma tuple?_columnsText {columns : List String} (hne : columns ≠ [])
    (hcolumns : ∀ column ∈ columns, isPlainName column = true) :
    tuple? (columnsText columns) = some columns :=
  tuple?_of_parts hne fun column hcolumn => parts_plainName (hcolumns column hcolumn)

/-- The literals of a row are read back from their parentheses. -/
lemma tuple?_tupleText {values : List Scalar} (hne : values ≠ []) :
    tuple? (tupleText values) = some (values.map Scalar.literal) := by
  refine tuple?_of_parts ?_ fun literal hliteral => ?_
  · rwa [Ne, List.map_eq_nil_iff]
  · obtain ⟨value, -, rfl⟩ := List.mem_map.mp hliteral
    exact value.parts_literal

end StatementParts

/-! ## Whole statements -/

namespace QueryStatement

open StatementParts

/-- What a statement says. -/
def parts : QueryStatement → StatementParts
  | .select distinct columns table condition order limit offset =>
    { verb := if distinct then .distinct else .select, table := table, columns := columns
      condition := condition.map Condition.clause, order := order
      limit := limit, offset := offset }
  | .count table condition =>
    { verb := .count, table := table, condition := condition.map Condition.clause }
  | .insert table columns rows =>
    { verb := .insert, table := table, columns := columns
      rows := rows.map fun values => values.map Scalar.literal }
  | .insertDefaults table => { verb := .insert, table := table, rows := [[]] }
  | .update table assignments condition =>
    { verb := .update, table := table
      assignments := assignments.map fun assignment => (assignment.1, assignment.2.literal)
      condition := condition.map Condition.clause }
  | .delete table condition =>
    { verb := .delete, table := table, condition := condition.map Condition.clause }

/-- A read is read back: its first column is none of the words that stand there otherwise. -/
lemma ofPieces?_select (distinct : Bool) {columns : List String} (table : String)
    (condition : Option Condition) (order : List OrderTerm) (limit offset : Option Int)
    (hcolumns : ∀ column ∈ columns, isColumnPath column = true) :
    ofPieces? (select distinct columns table condition order limit offset).pieces =
      some (select distinct columns table condition order limit offset).parts := by
  have hread := fun verb => readColumns_columnPieces verb table (conditionPieces condition ++
    (orderPieces order ++ (numberPieces "LIMIT" limit ++ numberPieces "OFFSET" offset))) hcolumns
  simp only [withClauses_pieces] at hread
  cases distinct with
  | true =>
    simp only [pieces, if_true, List.append_assoc, List.cons_append, List.nil_append]
    exact hread .distinct
  | false =>
    have hcountPath : isColumnPath "COUNT(*)" = false := rfl
    have hdistinctPath : isColumnPath "DISTINCT" = false := by decide +kernel
    have hhead : ∀ rest, ∃ first more, columnPieces columns ++ rest = first :: more ∧
        first ≠ "COUNT(*)" ∧ first ≠ "DISTINCT" := by
      intro rest
      cases columns with
      | nil => exact ⟨"*", rest, rfl, by decide, by decide⟩
      | cons first others =>
        have hne : ∀ word, isColumnPath word = false → first ≠ word := by
          rintro word hword rfl
          rw [hcolumns _ List.mem_cons_self] at hword
          cases hword
        cases others <;> exact ⟨first, _, rfl, hne _ hcountPath, hne _ hdistinctPath⟩
    have hselect : ∀ rest, ofPieces? ("SELECT" :: (columnPieces columns ++ rest)) =
        readColumns .select (columnPieces columns ++ rest) := by
      intro rest
      obtain ⟨first, more, hlist, hcount, hdistinct⟩ := hhead rest
      rw [hlist, ofPieces?]
      · exact fun rest heq => hcount (List.cons.inj heq).1
      · exact fun rest heq => hdistinct (List.cons.inj heq).1
    simp only [pieces, Bool.false_eq_true, if_false, List.append_assoc, List.cons_append,
      List.nil_append]
    rw [hselect, hread]
    rfl

/-- An insertion is read back: its columns stand in parentheses, so they are not taken for a
word. -/
lemma ofPieces?_insert (table : String) {columns : List String} {rows : List (List Scalar)}
    (hcolumns : ∀ column ∈ columns, isPlainName column = true) (hne : columns ≠ [])
    (hrows : rows ≠ []) (hvalues : ∀ values ∈ rows, values ≠ []) :
    ofPieces? (insert table columns rows).pieces = some (insert table columns rows).parts := by
  have hread : ∀ values ∈ rows, ∀ rest, readRow ([tupleText values] ++ rest) =
      some (values.map Scalar.literal, rest) := by
    intro values hmem rest
    rw [List.singleton_append, readRow, tuple?_tupleText (hvalues values hmem)]
    rfl
  have hend : ([] : List String).head? ≠ some "," := by simp
  have hlist := readList_listPieces hrows (fun values _ => List.cons_ne_nil (tupleText values) [])
    hread hend
  have hnames := tuple?_columnsText hne hcolumns
  simp only [pieces, List.cons_append, List.nil_append]
  rw [List.append_nil] at hlist
  rw [ofPieces?, hnames, hlist]
  · rfl
  · intro hdefault
    rw [hdefault] at hnames
    cases hnames

/-- An update is read back. -/
lemma ofPieces?_update (table : String) {assignments : List (String × Scalar)}
    (condition : Option Condition) (hne : assignments ≠ []) :
    ofPieces? (update table assignments condition).pieces =
      some (update table assignments condition).parts := by
  have hhead : (conditionPieces condition).head? ≠ some "," := by
    cases condition <;> simp [conditionPieces]
  have hspelled : ∀ assignment ∈ assignments, assignmentPieces assignment ≠ [] :=
    fun assignment _ => List.cons_ne_nil _ _
  have hread : ∀ assignment ∈ assignments, ∀ rest, readAssignment (assignmentPieces assignment ++
      rest) = some ((assignment.1, assignment.2.literal), rest) := fun assignment _ rest => rfl
  have hlist := readList_listPieces hne hspelled hread hhead
  simp only [pieces, List.cons_append, List.nil_append]
  rw [ofPieces?, hlist]
  exact withClauses_conditionPieces _ condition

/-- A statement is read back from its pieces. -/
lemma WellFormed.ofPieces?_pieces {statement : QueryStatement} (h : statement.WellFormed) :
    ofPieces? statement.pieces = some statement.parts := by
  cases h with
  | select _ hcolumns _ _ => exact ofPieces?_select _ _ _ _ _ _ hcolumns
  | count _ _ => exact withClauses_conditionPieces _ _
  | insert _ hcolumns hne hrows hvalues => exact ofPieces?_insert _ hcolumns hne hrows hvalues
  | insertDefaults _ => rfl
  | update _ _ hne _ => exact ofPieces?_update _ _ hne
  | delete _ _ => exact withClauses_conditionPieces _ _

/-- The text of a statement is read back as what it says. -/
lemma WellFormed.ofText?_sql {statement : QueryStatement} (h : statement.WellFormed) :
    StatementParts.ofText? statement.sql = some statement.parts := by
  rw [StatementParts.ofText?, h.parts_sql.pieces_eq, h.ofPieces?_pieces]

end QueryStatement

/-! ## Statements of queries -/

namespace Query

variable {query : Query} {statement : QueryStatement}

/-- What a query holds: the columns, rows and assignments that its verb is about, and all its
conditions, its order and its limits, whatever the verb. -/
def parts (query : Query) : StatementParts where
  verb := query.verb
  table := query.table
  columns :=
    match query.verb with
    | .select | .distinct => query.columns
    | .insert => columnUnion query.rows
    | .count | .update | .delete => []
  rows :=
    if query.verb = .insert then
      query.rows.map fun row => (rowValues (columnUnion query.rows) row).map Scalar.literal
    else []
  assignments :=
    if query.verb = .update then
      query.assignments.map fun assignment => (assignment.1, assignment.2.literal)
    else []
  condition := query.condition.map Condition.clause
  order := query.order
  limit := query.limit
  offset := query.offset

/-- What is expressible has an order and limits only if it reads rows, no conditions if it inserts
and an assignment if it updates. -/
lemma expressible_of_requireExpressible {result : Unit}
    (h : query.requireExpressible = .ok result) :
    (query.verb ≠ .select → query.verb ≠ .distinct →
      query.order = [] ∧ query.limit = none ∧ query.offset = none) ∧
    (query.verb = .insert → query.whereClause = none) ∧
    (query.verb = .update → query.assignments ≠ []) := by
  unfold requireExpressible at h
  split at h
  · cases h
  · split at h
    · rename_i hverb
      simp [hverb]
    · rename_i hverb
      simp [hverb]
    · split_ifs at h with hinsert hupdate hpaged
      refine ⟨fun _ _ => ?_, fun hverb => ?_, fun hverb hempty => ?_⟩
      · simpa [isPaged, and_assoc] using hpaged
      · simpa [hverb] using hinsert
      · simp [hverb, hempty] at hupdate

/-- The columns are the names, each of them once and in the order in which they are first seen. -/
structure FirstSeen (names columns : List String) : Prop where
  nodup : columns.Nodup
  mem_iff : ∀ column, column ∈ columns ↔ column ∈ names
  ordered : columns.Pairwise fun earlier later => names.idxOf earlier < names.idxOf later

/-- One more name is a column of its own unless it was seen before. -/
lemma FirstSeen.concat {names columns : List String} (h : FirstSeen names columns) (name : String) :
    FirstSeen (names ++ [name]) (if name ∈ columns then columns else columns ++ [name]) := by
  -- the place of a name that was seen stays the same
  have hkept : columns.Pairwise fun earlier later =>
      (names ++ [name]).idxOf earlier < (names ++ [name]).idxOf later := by
    refine h.ordered.imp_of_mem fun hearlier hlater hlt => ?_
    rwa [List.idxOf_append_of_mem ((h.mem_iff _).mp hearlier),
      List.idxOf_append_of_mem ((h.mem_iff _).mp hlater)]
  split
  · rename_i hseen
    refine ⟨h.nodup, fun column => ?_, hkept⟩
    rw [List.mem_append, List.mem_singleton, h.mem_iff]
    exact ⟨.inl, fun hcolumn => hcolumn.elim id fun heq => heq ▸ (h.mem_iff name).mp hseen⟩
  · rename_i hnew
    refine ⟨?_, fun column => ?_, ?_⟩
    · refine List.nodup_append.mpr ⟨h.nodup, List.pairwise_singleton _ _, fun column hcolumn => ?_⟩
      rw [List.forall_mem_singleton]
      exact fun heq => hnew (heq ▸ hcolumn)
    · rw [List.mem_append, List.mem_append, h.mem_iff]
    · refine List.pairwise_append.mpr
        ⟨hkept, List.pairwise_singleton _ _, fun earlier hearlier => ?_⟩
      have hseen := (h.mem_iff earlier).mp hearlier
      rw [List.forall_mem_singleton, List.idxOf_append_of_mem hseen,
        List.idxOf_append_of_notMem fun hname => hnew ((h.mem_iff name).mpr hname)]
      have hplace := List.idxOf_lt_length_of_mem hseen
      omega

/-- Collecting names one after the other keeps to this. -/
lemma FirstSeen.collect {seen columns : List String} (h : FirstSeen seen columns)
    (names : List String) :
    FirstSeen (seen ++ names) (names.foldl
      (fun columns name => if name ∈ columns then columns else columns ++ [name]) columns) := by
  induction names generalizing seen columns with
  | nil => rwa [List.append_nil]
  | cons name rest ih =>
    rw [List.foldl_cons, List.append_cons]
    exact ih (h.concat name)

/-- The columns of rows are the names in them. -/
lemma firstSeen_columnUnion (rows : List Row) :
    FirstSeen (rows.flatMap Json.Fields.names) (columnUnion rows) := by
  have hnone : FirstSeen [] [] := ⟨List.nodup_nil, fun _ => Iff.rfl, List.Pairwise.nil⟩
  exact hnone.collect _

/-- The columns of one document are its keys. -/
lemma columnUnion_singleton {fields : Json.Fields} (hnames : fields.names.Nodup) :
    columnUnion [fields] = fields.names := by
  have hflat : [fields].flatMap Json.Fields.names = fields.names := by
    rw [List.flatMap_singleton]
  rw [columnUnion, hflat]
  exact foldl_eq_append hnames

/-- The statement of an insertion says what the query holds. -/
lemma WellFormed.parts_of_insertStatement (h : query.WellFormed) (hverb : query.verb = .insert)
    (hcondition : query.condition = none) (horder : query.order = []) (hlimit : query.limit = none)
    (hoffset : query.offset = none)
    (hstatement : Query.insertStatement query.table query.rows = .ok statement) :
    statement.WellFormed ∧ statement.parts = query.parts := by
  have hrows := h.insertion hverb
  have hparts : query.parts = {
      verb := .insert
      table := query.table
      columns := columnUnion query.rows
      rows := query.rows.map fun row =>
        (rowValues (columnUnion query.rows) row).map Scalar.literal } := by
    simp only [parts, hverb, hcondition, horder, hlimit, hoffset, if_true, Option.map_none]
    rfl
  unfold Query.insertStatement at hstatement
  simp only at hstatement
  split_ifs at hstatement with hempty hseveral
  · cases hstatement
    have hcolumns : columnUnion query.rows = [] := List.isEmpty_iff.mp hempty
    obtain ⟨row, hsingle⟩ : ∃ row, query.rows = [row] := by
      refine List.length_eq_one_iff.mp ?_
      have hpositive := List.length_pos_of_ne_nil hrows
      omega
    refine ⟨.insertDefaults h.table, ?_⟩
    rw [hparts, hcolumns, hsingle]
    rfl
  · cases hstatement
    have hcolumns : columnUnion query.rows ≠ [] := fun heq => hempty (List.isEmpty_iff.mpr heq)
    have hplain : ∀ column ∈ columnUnion query.rows, isPlainName column = true := by
      intro column hcolumn
      obtain ⟨row, hrow, hname⟩ :=
        List.mem_flatMap.mp (((firstSeen_columnUnion query.rows).mem_iff column).mp hcolumn)
      exact h.rows row hrow column hname
    refine ⟨.insert h.table hplain hcolumns ?_ fun values hvalues => ?_, ?_⟩
    · rwa [Ne, List.map_eq_nil_iff]
    · obtain ⟨row, -, rfl⟩ := List.mem_map.mp hvalues
      rwa [rowValues, Ne, List.map_eq_nil_iff]
    · rw [hparts, QueryStatement.parts, List.map_map]
      rfl

/-- The statement of a query with fixed conditions says what the query holds. -/
lemma WellFormed.parts_of_statement (h : query.WellFormed) (hfinalized : query.finalized = true)
    (hstatement : query.statement = .ok statement) :
    statement.WellFormed ∧ statement.parts = query.parts := by
  have hwhere : query.whereClause = query.condition := by
    rw [h.fixed, if_pos hfinalized]
  unfold Query.statement at hstatement
  obtain ⟨_, hexpressible, hstatement⟩ := exists_of_bind_eq_ok hstatement
  rw [hwhere] at hstatement
  obtain ⟨hunpaged, hinsert, hupdate⟩ := expressible_of_requireExpressible hexpressible
  cases hverb : query.verb <;> rw [hverb] at hstatement hunpaged
  case insert =>
    obtain ⟨horder, hlimit, hoffset⟩ := hunpaged (by decide) (by decide)
    have hcondition : query.condition = none := hwhere ▸ hinsert hverb
    exact h.parts_of_insertStatement hverb hcondition horder hlimit hoffset hstatement
  case select | distinct =>
    cases hstatement
    refine ⟨.select h.table h.columns h.collected h.order, ?_⟩
    simp [QueryStatement.parts, parts, hverb]
  all_goals
    obtain ⟨horder, hlimit, hoffset⟩ := hunpaged (by decide) (by decide)
    cases hstatement
  case count =>
    refine ⟨.count h.table h.collected, ?_⟩
    simp [QueryStatement.parts, parts, hverb, horder, hlimit, hoffset]
  case update =>
    refine ⟨.update h.table h.assignments (hupdate hverb) h.collected, ?_⟩
    simp [QueryStatement.parts, parts, hverb, horder, hlimit, hoffset]
  case delete =>
    refine ⟨.delete h.table h.collected, ?_⟩
    simp [QueryStatement.parts, parts, hverb, horder, hlimit, hoffset]

end Query

end DocTables
