import DocTables.Migration.Basic
import DocTables.Migration.Database
import DocTables.Proofs.Storage.Ensures

/-!
# The tables of a database under statements

What each statement of a migration does to the table of a name: the table that it is about, and the
frame, every table of another name.  A name that is used twice in a database is no obstacle: the
first table of the name is the one that is looked up, and statements act on all tables of a name.
-/

namespace DocTables

namespace Database

variable {database : Database} {name other : String} {stored : StoredTable}

/-! ## Looking up a table -/

/-- There is no table in a database without tables. -/
@[simp] lemma table?_nil (indexes : List StoredIndex) :
    (⟨[], indexes⟩ : Database).table? name = none := rfl

/-- The first table is found under its name, and else the tables after it are searched. -/
@[simp] lemma table?_cons (first : StoredTable) (rest : List StoredTable)
    (indexes : List StoredIndex) :
    (⟨first :: rest, indexes⟩ : Database).table? name =
      if first.name = name then some first else (⟨rest, indexes⟩ : Database).table? name := by
  unfold table?
  by_cases h : first.name = name
  · simp [h]
  · simp [h]

/-- A change that keeps names changes the table of the name and no other. -/
lemma table?_mapTable {change : StoredTable → StoredTable}
    (hchange : ∀ table, (change table).name = table.name) :
    (database.mapTable name change).table? other =
      if other = name then (database.table? other).map change else database.table? other := by
  obtain ⟨tables, indexes⟩ := database
  unfold mapTable
  induction tables with
  | nil => simp
  | cons first rest ih =>
    simp only [List.map_cons, table?_cons] at ih ⊢
    rw [ih]
    by_cases hfirst : first.name = name
    · by_cases hother : name = other
      · simp [hfirst, hother, hchange]
      · have hother' : ¬ other = name := fun h => hother h.symm
        simp [hfirst, hother, hother', hchange]
    · by_cases hother : first.name = other
      · have hne : ¬ other = name := fun h => hfirst (hother.trans h)
        simp [hother, hne]
      · simp [hfirst, hother]

/-- A table that is put at the end is found unless there is one of its name already. -/
lemma table?_append (new : StoredTable) :
    (⟨database.tables ++ [new], database.indexes⟩ : Database).table? name =
      (database.table? name).or (if new.name = name then some new else none) := by
  obtain ⟨tables, indexes⟩ := database
  induction tables with
  | nil => simp
  | cons first rest ih =>
    simp only [List.cons_append, table?_cons] at ih ⊢
    rw [ih]
    by_cases hfirst : first.name = name
    · simp [hfirst]
    · simp [hfirst]

/-- Of the tables that are kept, none has the name that was dropped. -/
lemma table?_filter (indexes : List StoredIndex) :
    (⟨database.tables.filter fun table => table.name != other, indexes⟩ : Database).table? name =
      if name = other then none else database.table? name := by
  obtain ⟨tables, present⟩ := database
  induction tables with
  | nil => simp
  | cons first rest ih =>
    simp only [List.filter_cons, table?_cons] at ih ⊢
    by_cases hfirst : first.name = other
    · have hdropped : ¬ (first.name != other) = true := by simp [hfirst]
      rw [if_neg hdropped, ih]
      by_cases hname : name = other
      · simp [hname]
      · have hne : ¬ first.name = name := fun h => hname (h.symm.trans hfirst)
        simp [hname, hne]
    · have hkept : (first.name != other) = true := by simpa using hfirst
      rw [if_pos hkept, table?_cons, ih]
      by_cases hname : first.name = name
      · have hne : ¬ name = other := fun h => hfirst (hname.trans h)
        simp [hname, hne]
      · simp [hname]

/-- A table that is given a free name is found under it, and no longer under the old one. -/
lemma table?_rename {source target : String} (indexes : List StoredIndex) (hne : source ≠ target)
    (hfree : database.table? target = none) :
    (⟨(database.mapTable source fun table => { table with name := target }).tables, indexes⟩ :
      Database).table? name =
      if name = target then
        (database.table? source).map fun table => { table with name := target }
      else if name = source then none else database.table? name := by
  obtain ⟨tables, present⟩ := database
  unfold mapTable
  induction tables with
  | nil => simp
  | cons first rest ih =>
    have hfirst : ¬ first.name = target := by
      intro h
      rw [table?_cons, if_pos h] at hfree
      cases hfree
    rw [table?_cons, if_neg hfirst] at hfree
    have hrest := ih hfree
    simp only [List.map_cons, table?_cons] at hrest ⊢
    rw [hrest]
    by_cases hsource : first.name = source
    · by_cases hname : name = target
      · simp [hsource, hname]
      · have hname' : ¬ target = name := fun h => hname h.symm
        by_cases hold : name = source
        · simp [hsource, hold, hne, hne.symm]
        · have hold' : ¬ source = name := fun h => hold h.symm
          simp [hsource, hname, hname', hold, hold']
    · by_cases hname : name = target
      · simp [hsource, hname, hfirst]
      · by_cases hold : name = source
        · simp [hsource, hold, hne]
        · simp [hsource, hname, hold]

/-! ## Statements that succeed -/

/-- A statement that succeeds was applied. -/
lemma apply_eq_ok {statement : MigrationStatement} {reply : Reply} {before after : Database}
    (h : storage statement before = (.ok reply, after)) :
    before.apply statement = .ok (reply, after) := by
  rw [storage] at h
  split at h
  · rename_i reply' after' happly
    obtain ⟨hreply, rfl⟩ := Prod.mk.inj h
    rw [happly, Except.ok.inj hreply]
  · cases (Prod.mk.inj h).1

/-- A table whose name is free is created without rows. -/
lemma storage_createTable {table : Table} (hfree : database.table? table.name = none) :
    storage (.createTable table) database =
      (.ok (wrote 0),
        ⟨database.tables ++ [⟨table.name, table.columns, []⟩], database.indexes⟩) := by
  simp [storage, apply, hfree]

/-- A row with one more column, which holds the default of the column or `NULL`. -/
def filledRow (column : Column) (row : Row) : Row :=
  row ++ [(column.name, storedValue (column.default.getD .null))]

/-- A column is added to a table that exists, and all its rows are filled. -/
lemma storage_addColumn {column : Column} (hstored : database.table? name = some stored) :
    storage (.addColumn name column) database =
      (.ok (wrote 0), database.mapTable name fun table =>
        { table with
          columns := table.columns ++ [column]
          rows := table.rows.map (filledRow column) }) := by
  simp only [storage, apply, hstored]
  rfl

/-- The rows of a table that exists are read. -/
lemma storage_readAll (hstored : database.table? name = some stored) :
    storage (.readAll name) database = (.ok (.rows stored.rows), database) := by
  simp [storage, apply, hstored]

/-- A slice of the rows of one table is copied to the end of another one. -/
lemma storage_copyRows {copy : RowCopy} {limit offset : Nat} {source target : StoredTable}
    (hsource : database.table? copy.source = some source)
    (htarget : database.table? copy.target = some target) :
    storage (.copyRows copy limit offset) database =
      (.ok (wrote (((source.rows.drop offset).take limit).map (copiedRow copy)).length),
        database.mapTable copy.target fun table =>
          { table with
            rows := table.rows ++
              ((source.rows.drop offset).take limit).map (copiedRow copy) }) := by
  simp [storage, apply, hsource, htarget]

/-- A table that exists is dropped with its indexes. -/
lemma storage_dropTable (hstored : database.table? name = some stored) :
    storage (.dropTable name) database =
      (.ok (wrote 0), ⟨database.tables.filter fun table => table.name != name,
        database.indexes.filter fun index => index.table != name⟩) := by
  simp [storage, apply, hstored]

/-- A table that exists is given a name that is free. -/
lemma storage_renameTable {source target : String} (hstored : database.table? source = some stored)
    (hfree : database.table? target = none) :
    ∃ indexes, storage (.renameTable source target) database =
      (.ok (wrote 0),
        ⟨(database.mapTable source fun table => { table with name := target }).tables,
          indexes⟩) := by
  refine ⟨database.indexes.map fun index =>
    if index.table = source then { index with table := target } else index, ?_⟩
  simp only [storage, apply, hstored, hfree]
  rfl

/-- An index is created on a table that exists; the tables stay as they are. -/
lemma storage_createIndex (column : String) (hstored : database.table? name = some stored) :
    ∃ indexes, storage (.createIndex name column) database =
      (.ok (wrote 0), ⟨database.tables, indexes⟩) := by
  by_cases hpresent : (database.indexes.any fun index => index.name == indexName name column) = true
  · exact ⟨database.indexes, by simp [storage, apply, hstored, hpresent]⟩
  · exact ⟨database.indexes ++ [⟨indexName name column, name, column⟩],
      by simp [storage, apply, hstored, hpresent]⟩

end Database

end DocTables
