import DocTables.Proofs.Json.WellFormed
import DocTables.Proofs.Query.Grammar
import DocTables.Proofs.Query.Meaning
import DocTables.Proofs.Query.RoundTrip
import DocTables.Proofs.Query.StatementRoundTrip

/-!
# A document describes the row that it is inserted as

A document is written into a row by one part of the program, and into the condition of a search by
another one.  Both are read back from the texts of their statements here: the columns and literals
of the insertion, and the clause of the search.  On every row that holds what the literals of the
insertion stand for, the clause is true (`Query.found_by_example`): both parts write every value
alike, and `NULL` is tested for and not compared with.

The clause of such a search is a conjunction of tests.  `StoredRow.clauseTruth` reads it so, and
gives it one of three truth values; a comparison with `NULL` is neither true nor false, and what is
no test is not known to be true.
-/

namespace DocTables

/-! ## Rows -/

/-- What a literal stands for in a column: nothing, if it is `NULL`. -/
def Literal.stored {α : Type} (interpret : Literal → α) : Literal → Option α
  | .null => none
  | literal => some (interpret literal)

/-- The literal that a text is. -/
def Literal.ofText? (text : String) : Option Literal :=
  match sqlTokens? text with
  | some [token] => LiteralCondition.literal? token
  | _ => none

/-- What the columns of a row hold; a column may hold nothing. -/
abbrev StoredRow (α : Type) := String → Option α

namespace StoredRow

variable {α : Type} [DecidableEq α] (interpret : Literal → α) (row : StoredRow α)

omit [DecidableEq α] in
/-- Each column holds what the literal at its place stands for. -/
def Holds (columns literals : List String) : Prop :=
  ∀ place ∈ columns.zip literals, ∃ literal, Literal.ofText? place.2 = some literal ∧
    row place.1 = literal.stored interpret

/-- The truth of a test.  A column equals a literal if it holds what the literal stands for, and
there is something to compare on both sides. -/
def testTruth : List SqlToken → Truth
  | [.word column, .word "IS", .word "NULL"] => if (row column).isNone then .yes else .no
  | [.word column, .sign "=", token] =>
    match row column, (LiteralCondition.literal? token).bind (Literal.stored interpret) with
    | some held, some value => if held = value then .yes else .no
    | _, _ => .unknown
  | _ => .unknown

/-- The truth of a clause: of the tests between its parentheses, all of which must hold. -/
def clauseTruth (clause : String) : Truth :=
  match sqlTokens? clause with
  | some (.opening :: rest) =>
    if rest.getLast? = some .closing then
      Connective.and.join ((rest.dropLast.splitOn (.word "AND")).map (testTruth interpret row))
    else .unknown
  | _ => .unknown

end StoredRow

/-! ## Literals -/

/-- The literal of a scalar is read back from its text. -/
lemma Literal.ofText?_literal (value : Scalar) : ofText? value.literal = some value.written := by
  have htokens : sqlTokens? value.literal = some [value.written.token] :=
    value.spells_literal.sqlTokens?
  rw [ofText?, htokens]
  exact literal?_token value.written

/-- Only `NULL` stands for nothing. -/
lemma Literal.stored_of_ne_null {α : Type} (interpret : Literal → α) {literal : Literal}
    (h : literal ≠ .null) : literal.stored interpret = some (interpret literal) := by
  cases literal with
  | null => exact absurd rfl h
  | number text => rfl
  | text content => rfl

/-- A value that is written into a row is written as `NULL` only if it is `null`: its number, if it
is one, is finite. -/
lemma Scalar.written_ne_null {value : Json} (hvalue : value.WellFormed)
    (hne : Scalar.ofJson value ≠ .null) : (Scalar.ofJson value).written ≠ .null := by
  have hfinite : ∀ {x : Binary64}, x.isFinite = true → (Scalar.float x).written ≠ .null := by
    intro x hx
    obtain ⟨text, htext⟩ := Scalar.numberLayout.exists_text? hx
    simp only [Scalar.written, htext]
    exact Literal.noConfusion
  cases hvalue with
  | null => exact absurd rfl hne
  | number hn =>
    rw [Scalar.ofJson]
    split
    · exact Literal.noConfusion
    · exact hfinite hn.isFinite_toBinary64
  | _ => exact Literal.noConfusion

namespace StoredRow

/-! ## Tests and clauses -/

/-- What holds in every part holds altogether. -/
lemma join_eq_yes {truths : List Truth} (h : ∀ truth ∈ truths, truth = .yes) :
    Connective.and.join truths = .yes := by
  induction truths with
  | nil => rfl
  | cons first rest ih =>
    obtain ⟨rfl, hrest⟩ := List.forall_mem_cons.mp h
    have hjoin : Connective.and.join (Truth.yes :: rest) =
        Truth.yes.and (Connective.and.join rest) := rfl
    rw [hjoin, ih hrest]
    rfl

variable {α : Type} [DecidableEq α] {interpret : Literal → α} {row : StoredRow α}

/-- Tests in parentheses, with AND between any two of them, are a clause: none of them has that word
in it. -/
lemma clauseTruth_eq_join {clause : String} {tests : List (List SqlToken)} (hne : tests ≠ [])
    (hclause : sqlTokens? clause =
      some (.opening :: ([SqlToken.word "AND"].intercalate tests ++ [.closing])))
    (htests : ∀ test ∈ tests, .word "AND" ∉ test) :
    clauseTruth interpret row clause =
      Connective.and.join (tests.map (testTruth interpret row)) := by
  rw [clauseTruth, hclause]
  simp only [List.getLast?_concat, if_true, List.dropLast_concat,
    List.splitOn_intercalate _ htests hne]

end StoredRow

/-! ## Examples -/

namespace Filter

/-- A value that a field is compared with as it is: neither the empty object nor an object with an
operator in it. -/
def StandsForItself (value : Json) : Prop :=
  ∀ fields, value = .object fields → fields ≠ [] ∧ ∀ field ∈ fields, isOperatorKey field.1 = false

/-- The comparison that an entry with such a value spells. -/
def exampleComparison (entry : String × Json) : Comparison :=
  ⟨entry.1, .eq, .value (Scalar.ofJson entry.2)⟩

variable {key field : String} {value : Json} {levels : Nat} {entries : List (String × Json)}

lemma fieldComparison_of_standsForItself (h : StandsForItself value) :
    fieldComparison field value = Comparison.make field .eq (.value (Scalar.ofJson value)) := by
  cases value with
  | object fields =>
    obtain ⟨hne, hplain⟩ := h fields rfl
    have hany : (fields.any fun field => isOperatorKey field.1) = false :=
      List.any_eq_false.mpr fun field hfield => Bool.eq_false_iff.mp (hplain field hfield)
    obtain ⟨first, rest, rfl⟩ := List.exists_cons_of_ne_nil hne
    simp only [fieldComparison, hany, Bool.false_eq_true, if_false]
  | _ => rfl

/-- An entry is compiled to its comparison. -/
lemma entryCondition_of_example (hkey : isPlainName key = true) (hvalue : StandsForItself value) :
    entryCondition levels key value = .ok (.comparison (exampleComparison (key, value))) := by
  have hpath : isColumnPath key = true := isColumnPath_of_isPlainName hkey
  have hmake : Comparison.make key .eq (.value (Scalar.ofJson value)) =
      .ok (exampleComparison (key, value)) := if_pos hpath
  rw [entryCondition_of_field (isOperatorKey_of_isColumnPath hpath),
    fieldComparison_of_standsForItself hvalue, hmake]
  rfl

/-- Entries are compiled to their comparisons, in order. -/
lemma entryConditions_of_example (hkeys : ∀ entry ∈ entries, isPlainName entry.1 = true)
    (hvalues : ∀ entry ∈ entries, StandsForItself entry.2) :
    entryConditions levels entries =
      .ok (entries.map fun entry => .comparison (exampleComparison entry)) := by
  induction entries with
  | nil => rfl
  | cons entry rest ih =>
    obtain ⟨hkey, hothers⟩ := List.forall_mem_cons.mp hkeys
    obtain ⟨hvalue, hrest⟩ := List.forall_mem_cons.mp hvalues
    obtain ⟨key, value⟩ := entry
    rw [entryConditions, entryCondition_of_example hkey hvalue, ih hothers hrest]
    rfl

/-- So a document with an entry is compiled to the conjunction of its comparisons. -/
lemma exists_compile_of_example (hne : entries ≠ [])
    (hkeys : ∀ entry ∈ entries, isPlainName entry.1 = true)
    (hvalues : ∀ entry ∈ entries, StandsForItself entry.2) :
    ∃ condition, compile (.object entries) = .ok (some condition) ∧
      Condition.joined .and (entries.map fun entry => .comparison (exampleComparison entry)) =
        .ok condition := by
  obtain ⟨first, rest, rfl⟩ := List.exists_cons_of_ne_nil hne
  have hconditions : entryConditions maxLevels (first :: rest) = .ok _ :=
    entryConditions_of_example hkeys hvalues
  obtain ⟨condition, hjoined⟩ := exists_joined_iff.mpr
    (List.cons_ne_nil (Condition.comparison (exampleComparison first))
      (rest.map fun entry => .comparison (exampleComparison entry)))
  refine ⟨condition, ?_, hjoined⟩
  rw [compile, compileJoined, hconditions]
  change joinEntries .and (_ :: _) = _
  rw [joinEntries, hjoined]
  · rfl
  · rintro ⟨⟩

/-- The conjunction of comparisons, in parentheses. -/
lemma sqlTokens?_clause_of_joined {comparisons : List Comparison} {condition : Condition}
    (hjoined : Condition.joined .and (comparisons.map Condition.comparison) = .ok condition)
    (hform : ∀ comparison ∈ comparisons, (Condition.comparison comparison).WellFormed) :
    sqlTokens? condition.clause =
      some (.opening :: ([SqlToken.word "AND"].intercalate (comparisons.map Comparison.tokens) ++
        [.closing])) := by
  have hmembers : ∀ member ∈ comparisons.map Condition.comparison, member.WellFormed := by
    intro member hmember
    obtain ⟨comparison, hcomparison, rfl⟩ := List.mem_map.mp hmember
    exact hform comparison hcomparison
  have hmap : ∀ list : List Comparison,
      (list.map Condition.comparison).map Condition.tokens = list.map Comparison.tokens := by
    intro list
    rw [List.map_map]
    rfl
  have htext := (Condition.wellFormed_of_joined hjoined hmembers).spells_text
  match comparisons, hjoined with
  | [only], hjoined =>
    cases hjoined
    rw [List.map_singleton, List.intercalate_singleton]
    exact (spells_parenthesized htext).sqlTokens?
  | first :: second :: rest, hjoined =>
    cases hjoined
    have htokens := htext.sqlTokens?
    rw [Condition.tokens, Condition.tokenLists_eq_map, ← List.map_cons, hmap] at htokens
    exact htokens

variable {entry : String × Json}

/-- `NULL` is tested for. -/
lemma tokens_of_null (h : Scalar.ofJson entry.2 = .null) :
    (exampleComparison entry).tokens = [.word entry.1, .word "IS", .word "NULL"] := by
  rw [exampleComparison, h]
  rfl

/-- Everything else is compared with. -/
lemma tokens_of_ne_null (h : Scalar.ofJson entry.2 ≠ .null) :
    (exampleComparison entry).tokens =
      [.word entry.1, .sign "=", (Scalar.ofJson entry.2).written.token] :=
  tokens_value fun hequality => h hequality.1

/-- The test of an entry holds where the column holds what the literal of the entry's value stands
for. -/
lemma testTruth_exampleComparison {α : Type} [DecidableEq α] {interpret : Literal → α}
    {row : StoredRow α} (hvalue : entry.2.WellFormed)
    (hrow : row entry.1 = (Scalar.ofJson entry.2).written.stored interpret) :
    StoredRow.testTruth interpret row (exampleComparison entry).tokens = .yes := by
  by_cases hnull : Scalar.ofJson entry.2 = .null
  · have hnone : row entry.1 = none := by
      rw [hrow, hnull]
      rfl
    rw [tokens_of_null hnull, StoredRow.testTruth, hnone]
    rfl
  · have hsome := Literal.stored_of_ne_null interpret (Scalar.written_ne_null hvalue hnull)
    rw [tokens_of_ne_null hnull, StoredRow.testTruth, hrow, literal?_token, Option.bind_some, hsome]
    exact if_pos rfl

/-- The word between tests is in none of them. -/
lemma and_notMem_tokens (hkey : isPlainName entry.1 = true) :
    .word "AND" ∉ (exampleComparison entry).tokens := by
  have hname : "AND" ≠ entry.1 := by
    intro heq
    rw [← heq] at hkey
    exact absurd hkey (by decide +kernel)
  by_cases hnull : Scalar.ofJson entry.2 = .null
  · rw [tokens_of_null hnull]
    simp [hname]
  · have hliteral : ∀ literal : Literal, SqlToken.word "AND" ≠ literal.token := by
      intro literal
      cases literal <;> simp [Literal.token]
    rw [tokens_of_ne_null hnull]
    simp [hname, hliteral]

/-- The clause of a document is true on a row that holds what the literals of its values stand
for. -/
lemma clauseTruth_of_example {α : Type} [DecidableEq α] {interpret : Literal → α}
    {row : StoredRow α} {condition : Condition} (hne : entries ≠ [])
    (hkeys : ∀ entry ∈ entries, isPlainName entry.1 = true)
    (hvalues : ∀ entry ∈ entries, entry.2.WellFormed)
    (hjoined : Condition.joined .and
      (entries.map fun entry => .comparison (exampleComparison entry)) = .ok condition)
    (hrow : ∀ entry ∈ entries,
      row entry.1 = (Scalar.ofJson entry.2).written.stored interpret) :
    StoredRow.clauseTruth interpret row condition.clause = .yes := by
  have hform : ∀ comparison ∈ entries.map exampleComparison,
      (Condition.comparison comparison).WellFormed := by
    intro comparison hcomparison
    obtain ⟨entry, hentry, rfl⟩ := List.mem_map.mp hcomparison
    have hequality : Comparator.eq ≠ .oneOf := by decide
    exact .comparison (isColumnPath_of_isPlainName (hkeys entry hentry)) (.inr ⟨hequality, _, rfl⟩)
  have hclause : sqlTokens? condition.clause = some (.opening :: ([SqlToken.word "AND"].intercalate
      ((entries.map exampleComparison).map Comparison.tokens) ++ [.closing])) := by
    refine sqlTokens?_clause_of_joined ?_ hform
    rw [List.map_map]
    exact hjoined
  rw [List.map_map] at hclause
  have htests : ∀ test ∈ entries.map (Comparison.tokens ∘ exampleComparison),
      .word "AND" ∉ test := by
    intro test htest
    obtain ⟨entry, hentry, rfl⟩ := List.mem_map.mp htest
    exact and_notMem_tokens (hkeys entry hentry)
  have hlist : entries.map (Comparison.tokens ∘ exampleComparison) ≠ [] := by
    rwa [Ne, List.map_eq_nil_iff]
  rw [StoredRow.clauseTruth_eq_join hlist hclause htests]
  refine StoredRow.join_eq_yes fun truth htruth => ?_
  rw [List.map_map] at htruth
  obtain ⟨entry, hentry, rfl⟩ := List.mem_map.mp htruth
  exact testTruth_exampleComparison (hvalues entry hentry) (hrow entry hentry)

end Filter

/-! ## The row of a document -/

namespace Query

variable {fields : Json.Fields}

/-- The values of one document are written in the order of its keys. -/
lemma rowValues_names (hnames : fields.names.Nodup) :
    rowValues fields.names fields = fields.map fun entry => Scalar.ofJson entry.2 := by
  rw [rowValues, Json.Fields.names, List.map_map]
  refine List.map_congr_left fun entry hentry => ?_
  simp only [Function.comp_apply, Json.Fields.get?_of_mem hnames hentry]

/-- A row holds what the literals of a document stand for, if it does so for every entry. -/
lemma holds_iff {α : Type} [DecidableEq α] {interpret : Literal → α} {row : StoredRow α} :
    StoredRow.Holds interpret row fields.names
        ((fields.map fun entry => Scalar.ofJson entry.2).map Scalar.literal) ↔
      ∀ entry ∈ fields, row entry.1 = (Scalar.ofJson entry.2).written.stored interpret := by
  have hplaces :
      fields.names.zip ((fields.map fun entry => Scalar.ofJson entry.2).map Scalar.literal) =
      fields.map fun entry => (entry.1, (Scalar.ofJson entry.2).literal) := by
    rw [Json.Fields.names, List.map_map, List.zip_map']
    rfl
  rw [StoredRow.Holds, hplaces, List.forall_mem_map]
  simp only [Literal.ofText?_literal, Option.some.injEq, exists_eq_left']

/-- Some row does, if the keys are different. -/
lemma exists_holds {α : Type} [DecidableEq α] (interpret : Literal → α)
    (hnames : fields.names.Nodup) :
    ∃ row, StoredRow.Holds interpret row fields.names
      ((fields.map fun entry => Scalar.ofJson entry.2).map Scalar.literal) := by
  refine ⟨fun column => (fields.get? column).bind fun value =>
    (Scalar.ofJson value).written.stored interpret, holds_iff.mpr fun entry hentry => ?_⟩
  rw [Json.Fields.get?_of_mem hnames hentry, Option.bind_some]

variable {table : String} {start inserted : Query}

/-- A document that is inserted has keys that are plain names. -/
lemma exists_of_insert (h : start.insert (.object fields) = .ok inserted) :
    inserted = { start with verb := .insert, rows := [fields] } ∧
      ∀ entry ∈ fields, isPlainName entry.1 = true := by
  have hcall : start.call (.insert (.object fields)) = .ok inserted := h
  cases effect_of_call hcall with
  | document _ hprepares => cases hprepares
  | insert hnames => exact ⟨rfl, fun entry hentry => hnames entry.1 (List.mem_map_of_mem hentry)⟩

/-- Its statement has a column for every entry, and one row. -/
lemma render_of_insert (hstart : ofTable table = .ok start)
    (h : start.insert (.object fields) = .ok inserted) (hne : fields ≠ [])
    (hnames : fields.names.Nodup) :
    inserted.render = .ok (QueryStatement.insert table fields.names
      [fields.map fun entry => Scalar.ofJson entry.2]).sql := by
  have hempty : fields.names.isEmpty = false := by
    rwa [List.isEmpty_eq_false_iff, Json.Fields.names, Ne, List.map_eq_nil_iff]
  have hstatement : insertStatement table [fields] = .ok (.insert table fields.names
      [fields.map fun entry => Scalar.ofJson entry.2]) := by
    simp only [insertStatement, columnUnion_singleton hnames, hempty, Bool.false_eq_true, if_false,
      List.map_singleton, rowValues_names hnames]
  obtain ⟨rfl, -⟩ := exists_of_insert h
  obtain ⟨-, rfl⟩ := eq_of_ofTable hstart
  change (insertStatement table [fields]).map (·.sql) = _
  rw [hstatement]
  rfl

/-- The search for a document is compiled, and its statement has the condition of the document. -/
lemma exists_find_of_compile {document : Json} {condition : Condition}
    (hstart : ofTable table = .ok start) (h : Filter.compile document = .ok (some condition)) :
    ∃ found, start.find document = .ok found ∧
      found.render =
        .ok (QueryStatement.select false [] table (some condition) [] none none).sql := by
  obtain ⟨-, rfl⟩ := eq_of_ofTable hstart
  refine ⟨⟨.select, table, [], some condition, none, [], none, none, [], [], none, false, .all⟩, ?_,
    rfl⟩
  unfold find filter
  rw [h]
  rfl

/-- A document with a value of every kind. -/
def noteDocument : Json.Fields :=
  [("author", .string "O\x27Brien"), ("tags", .array [.string "a", .null]),
    ("place", .object [("city", .string "Bern")]), ("views", .number (.int 18446744073709551615)),
    ("open", .bool true), ("parent", .null)]

/-- The condition that describes a document is true on the row as which the document is inserted.
When a document with different keys is inserted without an error, and none of its values is an empty
object or an object with an operator, the search for it is made without an error as well, in the
same table; and its clause is true on every row of which the columns in the text of the insertion
hold what the literals there stand for, whatever numbers and texts stand for and whatever else is in
the row. -/
theorem found_by_example {α : Type} [DecidableEq α] (interpret : Literal → α)
    {document : Json.Fields} (hstart : ofTable table = .ok start)
    (hdocument : (Json.object document).WellFormed) (hne : document ≠ [])
    (hvalues : ∀ entry ∈ document, Filter.StandsForItself entry.2)
    (hinsert : start.insert (.object document) = .ok inserted) :
    ∃ found insertion search written read,
      inserted.render = .ok insertion ∧ start.find (.object document) = .ok found ∧
      found.render = .ok search ∧ StatementParts.ofText? insertion = some written ∧
      StatementParts.ofText? search = some read ∧ read.table = written.table ∧
      ∃ literals clause, written.rows = [literals] ∧ read.condition = some clause ∧
        (∃ row, StoredRow.Holds interpret row written.columns literals) ∧
        ∀ row, StoredRow.Holds interpret row written.columns literals →
          StoredRow.clauseTruth interpret row clause = .yes := by
  obtain ⟨hnames, hfields⟩ : document.names.Nodup ∧ ∀ entry ∈ document, entry.2.WellFormed := by
    cases hdocument with
    | object hnames hfields => exact ⟨hnames, hfields⟩
  have htable : isPlainName table = true := (eq_of_ofTable hstart).1
  obtain ⟨-, hkeys⟩ := exists_of_insert hinsert
  obtain ⟨condition, hcompile, hjoined⟩ := Filter.exists_compile_of_example hne hkeys hvalues
  obtain ⟨found, hfind, hsearch⟩ := exists_find_of_compile hstart hcompile
  have hinsertion := render_of_insert hstart hinsert hne hnames
  have hwritten : (QueryStatement.insert table document.names
      [document.map fun entry => Scalar.ofJson entry.2]).WellFormed := by
    refine .insert htable (fun column hcolumn => ?_) ?_ (List.cons_ne_nil _ _) ?_
    · obtain ⟨entry, hentry, rfl⟩ := List.mem_map.mp hcolumn
      exact hkeys entry hentry
    · rwa [Json.Fields.names, Ne, List.map_eq_nil_iff]
    · refine List.forall_mem_singleton.mpr ?_
      rwa [Ne, List.map_eq_nil_iff]
  have hread : (QueryStatement.select false [] table (some condition) [] none none).WellFormed := by
    refine .select htable (List.forall_mem_nil _) (fun present hpresent => ?_)
      (List.forall_mem_nil _)
    cases hpresent
    exact Filter.wellFormed_of_compileJoined hcompile
  refine ⟨found, _, _, _, _, hinsertion, hfind, hsearch, hwritten.ofText?_sql,
    hread.ofText?_sql, rfl, _, _, rfl, rfl, exists_holds interpret hnames, fun row hrow => ?_⟩
  exact Filter.clauseTruth_of_example hne hkeys hfields hjoined (holds_iff.mp hrow)

/-- The document is found by itself: the quote mark, the list, the object and the integer that does
not fit are written alike on both sides, and the value that is missing is tested for. -/
theorem noteDocument_found : ∃ start inserted found insertion search,
    ofTable "notes" = .ok start ∧ start.insert (.object noteDocument) = .ok inserted ∧
    inserted.render = .ok insertion ∧ start.find (.object noteDocument) = .ok found ∧
    found.render = .ok search ∧
    insertion = "INSERT INTO notes (author, tags, place, views, open, parent) VALUES " ++
      "(\x27O\x27\x27Brien\x27, \x27[\"a\",null]\x27, \x27\x7b\"city\":\"Bern\"\x7d\x27, " ++
      "18446744073709552000, 1, NULL)" ∧
    search = "SELECT * FROM notes WHERE (author = \x27O\x27\x27Brien\x27 AND " ++
      "tags = \x27[\"a\",null]\x27 AND place = \x27\x7b\"city\":\"Bern\"\x7d\x27 AND " ++
      "views = 18446744073709552000 AND open = 1 AND parent IS NULL)" ∧
    ∃ written read, StatementParts.ofText? insertion = some written ∧
      StatementParts.ofText? search = some read ∧
      ∃ literals clause, written.rows = [literals] ∧ read.condition = some clause ∧
        (∃ row, StoredRow.Holds id row written.columns literals) ∧
        ∀ row, StoredRow.Holds id row written.columns literals →
          StoredRow.clauseTruth id row clause = .yes := by
  have hdocument : (Json.object noteDocument).WellFormed := by
    have hlist : (Json.array [.string "a", .null]).WellFormed := by
      refine .array ?_
      rw [List.forall_mem_cons, List.forall_mem_singleton]
      exact ⟨.string _, .null⟩
    have hobject : (Json.object [("city", .string "Bern")]).WellFormed :=
      .object (by decide) (List.forall_mem_singleton.mpr (.string "Bern"))
    have hentries : ∀ entry ∈ noteDocument, entry.2.WellFormed := by
      simp only [noteDocument, List.forall_mem_cons]
      exact ⟨.string _, hlist, hobject, .number ⟨by decide, by decide⟩, .bool _, .null,
        List.forall_mem_nil _⟩
    exact Json.wellFormed_ofEntries hentries
  have hvalues : ∀ entry ∈ noteDocument, Filter.StandsForItself entry.2 := by
    have hplace : Filter.StandsForItself (.object [("city", .string "Bern")]) := by
      rintro fields ⟨⟩
      exact ⟨List.cons_ne_nil _ _, List.forall_mem_singleton.mpr (by decide)⟩
    simp only [noteDocument, List.forall_mem_cons]
    exact ⟨nofun, nofun, hplace, nofun, nofun, nofun, List.forall_mem_nil _⟩
  have hrun : Except.toOption (do
      let start ← ofTable "notes"
      let inserted ← start.insert (.object noteDocument)
      let insertion ← inserted.render
      let found ← start.find (.object noteDocument)
      let search ← found.render
      return (insertion, search)) = some (
        "INSERT INTO notes (author, tags, place, views, open, parent) VALUES " ++
          "(\x27O\x27\x27Brien\x27, \x27[\"a\",null]\x27, \x27\x7b\"city\":\"Bern\"\x7d\x27, " ++
          "18446744073709552000, 1, NULL)",
        "SELECT * FROM notes WHERE (author = \x27O\x27\x27Brien\x27 AND " ++
          "tags = \x27[\"a\",null]\x27 AND place = \x27\x7b\"city\":\"Bern\"\x7d\x27 AND " ++
          "views = 18446744073709552000 AND open = 1 AND parent IS NULL)") := by
    decide +kernel
  obtain ⟨start, hstart, hrun⟩ := exists_of_bind_eq_ok (eq_ok_of_toOption hrun)
  obtain ⟨inserted, hinsert, hrun⟩ := exists_of_bind_eq_ok hrun
  obtain ⟨insertion, hinsertion, hrun⟩ := exists_of_bind_eq_ok hrun
  obtain ⟨found, hfind, hrun⟩ := exists_of_bind_eq_ok hrun
  obtain ⟨search, hsearch, hrun⟩ := exists_of_bind_eq_ok hrun
  obtain ⟨htext, htext'⟩ := Prod.mk.inj (Except.ok.inj hrun)
  obtain ⟨found', insertion', search', written, read, hinsertion', hfind', hsearch', hwritten,
    hread, -, htrue⟩ := found_by_example id hstart hdocument (List.cons_ne_nil _ _) hvalues hinsert
  obtain rfl := Except.ok.inj (hinsertion.symm.trans hinsertion')
  obtain rfl := Except.ok.inj (hfind.symm.trans hfind')
  obtain rfl := Except.ok.inj (hsearch.symm.trans hsearch')
  exact ⟨start, inserted, found, insertion, search, hstart, hinsert, hinsertion, hfind,
    hsearch, htext, htext', written, read, hwritten, hread, htrue⟩

end Query

end DocTables
