import DocTables.Proofs.Query.StatementRoundTrip
import Mathlib.Data.Set.List

/-!
# Inserting documents

Documents with different keys are inserted by one statement.  Its columns are all keys, in the order
in which they are first seen, and each document is a tuple that has its value for every column, or
`NULL` where it has none (`Query.documents_inserted`).  Documents without any keys have no columns:
a single one is inserted as a row of defaults, and several are refused.
-/

namespace DocTables

namespace Query

variable {table : String} {start inserted : Query} {documents : List Json} {rows : List Row}

/-! ## What is refused -/

/-- Documents are refused just if there are none, one of them is no object, or one has a key that is
not plain. -/
lemma insertMany_eq_error_iff :
    (∃ error, start.insertMany documents = .error error) ↔ documents = [] ∨
      (∃ document ∈ documents, ∀ fields, document ≠ .object fields) ∨
      ∃ fields, .object fields ∈ documents ∧
        ∃ key ∈ Json.Fields.names fields, isPlainName key = false := by
  constructor
  · rintro ⟨error, herror⟩
    by_contra hnone
    simp only [not_or, not_exists, not_and, not_forall, not_not, Bool.not_eq_false] at hnone
    obtain ⟨hne, hobjects, hplain⟩ := hnone
    obtain ⟨rows, rfl⟩ : documents ∈ Set.range (List.map Json.object) := by
      rw [Set.range_list_map]
      intro document hdocument
      obtain ⟨fields, hfields⟩ := hobjects document hdocument
      exact ⟨fields, hfields.symm⟩
    have hrows : ∀ row ∈ rows, ∀ name ∈ Json.Fields.names row, isPlainName name = true :=
      fun row hrow => hplain row (List.mem_map_of_mem hrow)
    rw [insertMany_eq_ok_iff.mpr ⟨hne, rows, ⟨rfl, hrows⟩, rfl⟩] at herror
    cases herror
  · intro hrefused
    cases hresult : start.insertMany documents with
    | error error => exact ⟨error, rfl⟩
    | ok inserted =>
      obtain ⟨hne, rows, ⟨rfl, hplain⟩, -⟩ := insertMany_eq_ok_iff.mp hresult
      rcases hrefused with hnil | ⟨document, hdocument, hother⟩ | ⟨fields, hfields, key, hkey, hodd⟩
      · exact absurd hnil hne
      · obtain ⟨row, -, rfl⟩ := List.mem_map.mp hdocument
        exact absurd rfl (hother row)
      · obtain ⟨row, hrow, hsame⟩ := List.mem_map.mp hfields
        cases hsame
        rw [hplain _ hrow key hkey] at hodd
        cases hodd

/-! ## What is inserted -/

/-- The literal of a row's value for a column, or `NULL` where the row lacks it. -/
def cellText (row : Row) (column : String) : String :=
  match row.get? column with
  | some value => (Scalar.ofJson value).literal
  | none => "NULL"

/-- The values of a row are written in the order of the columns. -/
lemma literal_rowValues (columns : List String) (row : Row) :
    (rowValues columns row).map Scalar.literal = columns.map (cellText row) := by
  rw [rowValues, List.map_map]
  refine List.map_congr_left fun column _ => ?_
  rw [Function.comp_apply, cellText]
  cases row.get? column <;> rfl

/-- There are no columns just if there are no keys. -/
lemma columnUnion_eq_nil_iff : columnUnion rows = [] ↔ ∀ row ∈ rows, row = [] := by
  have hcolumns := (firstSeen_columnUnion rows).mem_iff
  simp only [List.eq_nil_iff_forall_not_mem]
  constructor
  · intro hnone row hrow entry hentry
    refine hnone entry.1 ((hcolumns entry.1).mpr (List.mem_flatMap.mpr ⟨row, hrow, ?_⟩))
    exact List.mem_map_of_mem hentry
  · intro hempty column hcolumn
    obtain ⟨row, hrow, hname⟩ := List.mem_flatMap.mp ((hcolumns column).mp hcolumn)
    obtain ⟨entry, hentry, -⟩ := List.mem_map.mp hname
    exact hempty row hrow entry hentry

/-- The statement of a fresh query that inserts rows is the one for these rows. -/
lemma render_of_rows (hstart : ofTable table = .ok start) :
    { start with verb := .insert, rows := rows }.render =
      (insertStatement table rows).map QueryStatement.sql := by
  obtain ⟨-, rfl⟩ := eq_of_ofTable hstart
  rfl

/-- The statement for rows with keys has all keys as its columns, and is read back so. -/
lemma exists_insertStatement (htable : isPlainName table = true)
    (hplain : ∀ row ∈ rows, ∀ name ∈ Json.Fields.names row, isPlainName name = true)
    (hkeys : ∃ row ∈ rows, row ≠ []) :
    ∃ statement, insertStatement table rows = .ok statement ∧
      statement.sql = "INSERT INTO " ++ table ++ " (" ++ ", ".intercalate (columnUnion rows) ++
        ") VALUES " ++ ", ".intercalate (rows.map fun row =>
          "(" ++ ", ".intercalate ((columnUnion rows).map (cellText row)) ++ ")") ∧
      StatementParts.ofText? statement.sql = some {
        verb := .insert, table := table, columns := columnUnion rows
        rows := rows.map fun row => (columnUnion rows).map (cellText row) } := by
  obtain ⟨row, hrow, hkey⟩ := hkeys
  have hne : columnUnion rows ≠ [] := fun hnil => hkey (columnUnion_eq_nil_iff.mp hnil row hrow)
  have hempty : ¬ (columnUnion rows).isEmpty = true := fun hnil => hne (List.isEmpty_iff.mp hnil)
  have hform : (QueryStatement.insert table (columnUnion rows)
      (rows.map (rowValues (columnUnion rows)))).WellFormed := by
    refine .insert htable (fun column hcolumn => ?_) hne ?_ fun values hvalues => ?_
    · obtain ⟨row, hrow, hname⟩ :=
        List.mem_flatMap.mp (((firstSeen_columnUnion rows).mem_iff column).mp hcolumn)
      exact hplain row hrow column hname
    · rw [Ne, List.map_eq_nil_iff]
      exact List.ne_nil_of_mem hrow
    · obtain ⟨row, -, rfl⟩ := List.mem_map.mp hvalues
      rwa [rowValues, Ne, List.map_eq_nil_iff]
  have hstatement : insertStatement table rows = .ok (.insert table (columnUnion rows)
      (rows.map (rowValues (columnUnion rows)))) := by
    rw [insertStatement, if_neg hempty]
  refine ⟨_, hstatement, ?_, ?_⟩
  · have htuples : (rows.map (rowValues (columnUnion rows))).map QueryStatement.tupleText =
        rows.map fun row =>
          "(" ++ ", ".intercalate ((columnUnion rows).map (cellText row)) ++ ")" := by
      rw [List.map_map]
      refine List.map_congr_left fun row _ => ?_
      rw [Function.comp_apply, QueryStatement.tupleText, literal_rowValues]
    rw [← htuples]
    rfl
  · rw [hform.ofText?_sql]
    simp only [QueryStatement.parts, List.map_map, Function.comp_def, literal_rowValues]

/-- Documents are inserted into a fresh query unless there are none, one of them is no object or one
has a key that is not plain.  If some document has a key, the columns of the statement are all keys,
each once and in the order in which they are first seen; there is a tuple for every document in
order, and in it the literal of the document's value for each column, or `NULL` where it has none.
A single document without keys is a row of defaults, and several are refused. -/
theorem documents_inserted (hstart : ofTable table = .ok start) (documents : List Json) :
    ((∃ error, start.insertMany documents = .error error) ↔ documents = [] ∨
      (∃ document ∈ documents, ∀ fields, document ≠ .object fields) ∨
      ∃ fields, .object fields ∈ documents ∧
        ∃ key ∈ Json.Fields.names fields, isPlainName key = false) ∧
    ∀ inserted, start.insertMany documents = .ok inserted →
      ∃ rows : List Row, documents = rows.map Json.object ∧
        ((∃ row ∈ rows, row ≠ []) →
          ∃ columns sql, FirstSeen (rows.flatMap Json.Fields.names) columns ∧
            inserted.render = .ok sql ∧
            sql = "INSERT INTO " ++ table ++ " (" ++ ", ".intercalate columns ++ ") VALUES " ++
              ", ".intercalate (rows.map fun row =>
                "(" ++ ", ".intercalate (columns.map (cellText row)) ++ ")") ∧
            StatementParts.ofText? sql = some {
              verb := .insert, table := table, columns := columns
              rows := rows.map fun row => columns.map (cellText row) }) ∧
        ((∀ row ∈ rows, row = []) →
          (rows.length = 1 → inserted.render = .ok ("INSERT INTO " ++ table ++ " DEFAULT VALUES")) ∧
          (2 ≤ rows.length → inserted.render = .error (.invalid .severalEmptyDocuments))) := by
  refine ⟨insertMany_eq_error_iff, fun inserted hinserted => ?_⟩
  obtain ⟨-, rows, ⟨rfl, hplain⟩, rfl⟩ := insertMany_eq_ok_iff.mp hinserted
  rw [render_of_rows hstart]
  refine ⟨rows, rfl, fun hkeys => ?_, fun hempty => ?_⟩
  · obtain ⟨statement, hstatement, hsql, hread⟩ :=
      exists_insertStatement (eq_of_ofTable hstart).1 hplain hkeys
    rw [hstatement]
    exact ⟨_, _, firstSeen_columnUnion rows, rfl, hsql, hread⟩
  · have hnone : (columnUnion rows).isEmpty = true :=
      List.isEmpty_iff.mpr (columnUnion_eq_nil_iff.mpr hempty)
    refine ⟨fun hone => ?_, fun hseveral => ?_⟩
    · rw [insertStatement, if_pos hnone, if_neg (by omega)]
      rfl
    · rw [insertStatement, if_pos hnone, if_pos (by omega)]
      rfl

/-- Documents that share some of their keys, in different orders, and one without any. -/
def sharedKeys : List Row :=
  [[("a", .number (.int 1)), ("b", .string "x")], [("c", .bool true), ("a", .null)], []]

/-- Every value is in the column of its key. -/
theorem sharedKeys_inserted : ∃ start inserted columns sql,
    ofTable "notes" = .ok start ∧
    start.insertMany (sharedKeys.map Json.object) = .ok inserted ∧
    FirstSeen ["a", "b", "c", "a"] columns ∧
    inserted.render = .ok sql ∧
    sql = "INSERT INTO notes (a, b, c) VALUES (1, \x27x\x27, NULL), " ++
      "(NULL, NULL, 1), (NULL, NULL, NULL)" ∧
    StatementParts.ofText? sql = some {
      verb := .insert, table := "notes", columns := columns
      rows := sharedKeys.map fun row => columns.map (cellText row) } := by
  have hrun : Except.toOption (do
      let start ← ofTable "notes"
      let inserted ← start.insertMany (sharedKeys.map Json.object)
      inserted.render) = some ("INSERT INTO notes (a, b, c) VALUES (1, \x27x\x27, NULL), " ++
        "(NULL, NULL, 1), (NULL, NULL, NULL)") := by
    decide +kernel
  obtain ⟨start, hstart, hrun⟩ := exists_of_bind_eq_ok (eq_ok_of_toOption hrun)
  obtain ⟨inserted, hinserted, hrender⟩ := exists_of_bind_eq_ok hrun
  obtain ⟨rows, hrows, hcolumns, -⟩ := (documents_inserted hstart _).2 inserted hinserted
  obtain rfl : sharedKeys = rows := (List.map_inj_right fun _ _ => Json.object.inj).mp hrows
  obtain ⟨columns, sql, hfirst, hsql, -, hread⟩ :=
    hcolumns ⟨_, List.mem_cons_self, List.cons_ne_nil _ _⟩
  obtain rfl := Except.ok.inj (hrender.symm.trans hsql)
  exact ⟨start, inserted, columns, _, hstart, hinserted, hfirst, hrender, rfl, hread⟩

end Query

end DocTables
