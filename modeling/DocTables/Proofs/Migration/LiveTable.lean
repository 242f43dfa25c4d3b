import DocTables.Proofs.Migration.Steps
import DocTables.Proofs.Name
import Mathlib.Data.List.TakeDrop
import Mathlib.Logic.Function.Basic

/-!
# Live tables of a storage

What is relied on about a storage, so that a migration can be followed by its columns alone.  A live
table has the columns of the definitions it was made of: a definition is read back as the column
that is reported later (`ReportedColumn.ofDefinition?`), with the text after `DEFAULT` as it stands
there.  The storage reports columns by the rows of `table_info`, and the exclusion of repeated
values by an index of its own (`Reports`).  Under these two assumptions the definition of a column
is read back as the column itself (`ofDefinition?_definition`), and looking at a table finds its
columns (`currentColumns_of_reports`).
-/

namespace DocTables

/-! ## Definitions of columns -/

/-- The column as a storage reports it once it was created. A primary key needs no further index
that excludes repeated values. -/
def Column.reported (column : Column) : ReportedColumn where
  name := column.name
  declaredType := column.type.name
  notNull := column.notNull
  default := column.defaultLiteral
  primaryKey := column.primaryKey
  unique := column.unique && !column.primaryKey

namespace ReportedColumn

/-- Takes a clause from the front of a text, if the text begins with it. -/
def takeClause (clause : String) (text : List Char) : Bool × List Char :=
  match clause.toList.isPrefixOf? text with
  | some rest => (true, rest)
  | none => (false, text)

/-- The column that a definition creates: its name, its type, and the clauses after them. Everything
after `DEFAULT` is the default, as it stands there. -/
def ofDefinition? (definition : String) : Option ReportedColumn :=
  let (name, rest) := definition.toList.span (· != ' ')
  let (type, rest) := (rest.drop 1).span (· != ' ')
  let (unique, rest) := takeClause " UNIQUE" rest
  let (primaryKey, rest) := takeClause " PRIMARY KEY" rest
  let (notNull, rest) := takeClause " NOT NULL" rest
  let column (default : Option String) : ReportedColumn :=
    ⟨String.ofList name, String.ofList type, notNull, default, primaryKey, unique && !primaryKey⟩
  match takeClause " DEFAULT " rest with
  | (true, default) => some (column (some (String.ofList default)))
  | (false, []) => some (column none)
  | (false, _ :: _) => none

example : ofDefinition? "age REAL NOT NULL DEFAULT 20" =
    some ⟨"age", "REAL", true, some "20", false, false⟩ := by decide +kernel

/-- The clauses after the name and the type of a column, each with the blank before it. -/
def clausesOf (column : Column) : List Char :=
  (if column.unique then " UNIQUE".toList else []) ++
    ((if column.primaryKey then " PRIMARY KEY".toList else []) ++
      ((if column.notNull then " NOT NULL".toList else []) ++
        match column.defaultLiteral with
        | some literal => " DEFAULT ".toList ++ literal.toList
        | none => []))

/-- A definition is the name, the type and the clauses. -/
lemma toList_definition (column : Column) :
    column.definition.toList =
      column.name.toList ++ ' ' :: (column.type.name.toList ++ clausesOf column) := by
  obtain ⟨name, type, unique, primaryKey, indexed, notNull, default⟩ := column
  unfold Column.definition Column.definitionWords clausesOf
  rw [String.toList_intercalate]
  cases unique <;> cases primaryKey <;> cases notNull <;> cases default <;>
    simp [Column.defaultLiteral, List.intercalate_cons_cons]

/-- The clauses are taken one after the other, and what is left is the default. -/
lemma takeClause_clausesOf (column : Column) :
    ∃ afterUnique afterKey afterNull,
      takeClause " UNIQUE" (clausesOf column) = (column.unique, afterUnique) ∧
      takeClause " PRIMARY KEY" afterUnique = (column.primaryKey, afterKey) ∧
      takeClause " NOT NULL" afterKey = (column.notNull, afterNull) ∧
      takeClause " DEFAULT " afterNull =
        (column.defaultLiteral.isSome, (column.defaultLiteral.map String.toList).getD []) := by
  obtain ⟨name, type, unique, primaryKey, indexed, notNull, default⟩ := column
  unfold clausesOf
  cases unique <;> cases primaryKey <;> cases notNull <;> cases default <;>
    exact ⟨_, _, _, rfl, rfl, rfl, rfl⟩

/-- A word without blanks is what stands before the next blank. -/
lemma span_blank {word rest : List Char} (hword : ∀ c ∈ word, c ≠ ' ')
    (hrest : ∀ c ∈ rest.head?, c = ' ') :
    (word ++ rest).span (· != ' ') = (word, rest) := by
  have hall : ∀ c ∈ word, (c != ' ') = true := fun c hc => bne_iff_ne.mpr (hword c hc)
  rw [List.span_eq_takeWhile_dropWhile, List.takeWhile_append_of_pos hall,
    List.dropWhile_append_of_pos hall]
  cases rest with
  | nil => simp
  | cons c cs =>
    obtain rfl : c = ' ' := hrest c rfl
    simp

/-- The clauses begin with a blank. -/
lemma head?_clausesOf (column : Column) : ∀ c ∈ (clausesOf column).head?, c = ' ' := by
  obtain ⟨name, type, unique, primaryKey, indexed, notNull, default⟩ := column
  unfold clausesOf
  cases unique <;> cases primaryKey <;> cases notNull <;> cases default <;>
    simp [Column.defaultLiteral]

/-- A definition is read back as the column that it creates. -/
lemma ofDefinition?_definition {column : Column} (hname : isPlainName column.name = true) :
    ofDefinition? column.definition = some column.reported := by
  obtain ⟨afterUnique, afterKey, afterNull, hunique, hkey, hnull, hdefault⟩ :=
    takeClause_clausesOf column
  have hblanks : (column.type.name.toList.all fun c => c ≠ ' ') = true := by
    cases column.type <;> rfl
  have htype : ∀ c ∈ column.type.name.toList, c ≠ ' ' := by
    simpa only [List.all_eq_true, decide_eq_true_eq] using hblanks
  have hfirst : column.definition.toList.span (· != ' ') =
      (column.name.toList, ' ' :: (column.type.name.toList ++ clausesOf column)) := by
    rw [toList_definition]
    refine span_blank (fun c hc hblank => ?_) (by simp)
    have hrest := isNameRest_of_mem_plain hname c hc
    rw [hblank] at hrest
    cases hrest
  have hsecond := span_blank htype (head?_clausesOf column)
  simp only [ofDefinition?, hfirst, List.drop_succ_cons, List.drop_zero, hsecond, hunique,
    hkey, hnull, hdefault, String.ofList_toList]
  cases h : column.defaultLiteral with
  | none => simp [Column.reported, h]
  | some literal => simp [Column.reported, h]

/-- The definitions of columns are read back as the columns that they create. -/
lemma eq_map_reported {declared : List Column} {created : List ReportedColumn}
    (h : List.Forall₂ (fun column reported => ofDefinition? column.definition = some reported)
      declared created)
    (hplain : ∀ column ∈ declared, isPlainName column.name = true) :
    created = declared.map Column.reported := by
  induction h with
  | nil => rfl
  | cons hfirst _ ih =>
    obtain ⟨hname, hrest⟩ := List.forall_mem_cons.mp hplain
    rw [ofDefinition?_definition hname] at hfirst
    rw [List.map_cons, ih hrest, Option.some.inj hfirst]

end ReportedColumn

/-! ## What statements do to columns -/

/-- A storage keeps the columns of its tables as they were defined: reading changes nothing, a table
is created with the columns of its definitions, a column is added at the end, and copies and indexes
leave the columns of all tables alone. Nothing is assumed of a statement that fails. -/
structure KeepsDefinitions {τ : Type} (storage : Dialogue.Storage MigrationStatement τ)
    (columns : τ → String → Option (List ReportedColumn)) : Prop where
  read : ∀ {statement reply before after}, statement.isRead = true →
    storage statement before = (.ok reply, after) → after = before
  createTable : ∀ {table reply before after},
    (∀ column ∈ table.columns, isPlainName column.name = true) →
    storage (.createTable table) before = (.ok reply, after) →
    ∃ created, List.Forall₂ (fun column reported =>
        ReportedColumn.ofDefinition? column.definition = some reported) table.columns created ∧
      columns after = Function.update (columns before) table.name (some created)
  addColumn : ∀ {table column reply before after}, isPlainName column.name = true →
    storage (.addColumn table column) before = (.ok reply, after) →
    ∃ added, ReportedColumn.ofDefinition? column.definition = some added ∧
      columns after =
        Function.update (columns before) table ((columns before table).map (· ++ [added]))
  copyRows : ∀ {copy limit offset reply before after},
    storage (.copyRows copy limit offset) before = (.ok reply, after) →
    columns after = columns before
  dropTable : ∀ {table reply before after},
    storage (.dropTable table) before = (.ok reply, after) →
    columns after = Function.update (columns before) table none
  renameTable : ∀ {source target reply before after}, source ≠ target →
    storage (.renameTable source target) before = (.ok reply, after) →
    columns after =
      Function.update (Function.update (columns before) source none) target (columns before source)
  createIndex : ∀ {table column reply before after},
    storage (.createIndex table column) before = (.ok reply, after) →
    columns after = columns before

namespace KeepsDefinitions

variable {τ : Type} {storage : Dialogue.Storage MigrationStatement τ}
  {columns : τ → String → Option (List ReportedColumn)} {reply : Reply} {before after : τ}

/-- A table that was created has the columns that it was to have. -/
lemma columns_createTable (h : KeepsDefinitions storage columns) {table : Table}
    (hplain : ∀ column ∈ table.columns, isPlainName column.name = true)
    (hanswer : storage (.createTable table) before = (.ok reply, after)) :
    columns after table.name = some (table.columns.map Column.reported) := by
  obtain ⟨created, hcreated, hafter⟩ := h.createTable hplain hanswer
  rw [hafter, Function.update_self, ReportedColumn.eq_map_reported hcreated hplain]

/-- A column that was added is the last one of its table. -/
lemma columns_addColumn (h : KeepsDefinitions storage columns) {table : String} {column : Column}
    {live : List ReportedColumn} (hplain : isPlainName column.name = true)
    (hlive : columns before table = some live)
    (hanswer : storage (.addColumn table column) before = (.ok reply, after)) :
    columns after table = some (live ++ [column.reported]) := by
  obtain ⟨added, hadded, hafter⟩ := h.addColumn hplain hanswer
  rw [ReportedColumn.ofDefinition?_definition hplain] at hadded
  rw [hafter, Function.update_self, hlive, Option.map_some, Option.some.inj hadded]

end KeepsDefinitions

/-! ## What a storage reports -/

/-- An index of a live table. -/
structure ReportedIndex where
  /-- The name. -/
  name : String
  /-- Why the index is there: `u` for a constraint that excludes repeated values. -/
  origin : String
  /-- The columns in order. -/
  columns : List String

/-- A row of `table_info` for a column. Its place in the primary key is a positive number. -/
structure DescribesColumn (row : Row) (column : ReportedColumn) : Prop where
  name : row.get? "name" = some (.string column.name)
  type : row.get? "type" = some (.string column.declaredType)
  notNull : row.get? "notnull" = some (.number (.int (if column.notNull then 1 else 0)))
  default : row.get? "dflt_value" = some (match column.default with
    | some literal => .string literal
    | none => .null)
  primaryKey : ∃ place : Nat, row.get? "pk" = some (.number (.int place)) ∧
    (place : Int) ≤ Json.greatestInt64 ∧ (0 < place ↔ column.primaryKey = true)

/-- A row of `index_list` for an index. -/
structure DescribesIndex (row : Row) (index : ReportedIndex) : Prop where
  name : row.get? "name" = some (.string index.name)
  origin : row.get? "origin" = some (.string index.origin)
  unique : index.origin = "u" → row.get? "unique" = some (.number (.int 1))

/-- The rows of `index_info` for the columns of an index. -/
def NamesColumns (names : List Row) (columns : List String) : Prop :=
  List.Forall₂ (fun row column => Json.Fields.get? row "name" = some (.string column)) names columns

/-- A storage reports that a table is there with the given columns. A column excludes repeated
values just if it is the only column of an index that stands for such a constraint. -/
structure Reports {τ : Type} (storage : Dialogue.Storage MigrationStatement τ) (state : τ)
    (table : String) (live : List ReportedColumn) : Prop where
  found : ∃ row rest, storage (.findTable table) state = (.ok (.rows (row :: rest)), state)
  columns : ∃ rows, storage (.tableInfo table) state = (.ok (.rows rows), state) ∧
    List.Forall₂ DescribesColumn rows live
  indexes : ∃ rows indexes, storage (.indexList table) state = (.ok (.rows rows), state) ∧
    List.Forall₂ DescribesIndex rows indexes ∧
    (∀ index ∈ indexes, index.origin = "u" →
      ∃ names, storage (.indexInfo index.name) state = (.ok (.rows names), state) ∧
        NamesColumns names index.columns) ∧
    ∀ column ∈ live, column.unique = true ↔
      ∃ index ∈ indexes, index.origin = "u" ∧ index.columns = [column.name]

namespace Migration

open Dialogue

variable {τ : Type} {storage : Storage MigrationStatement τ} {state : τ} {table : String}
  {live : List ReportedColumn}

/-- A flag is a number that is positive. -/
lemma flag_eq_decide {row : Row} {name : String} {n : Nat}
    (h : row.get? name = some (.number (.int n))) (hn : (n : Int) ≤ Json.greatestInt64) :
    ReportedColumn.flag row name = decide (0 < n) := by
  have hleast : Json.leastInt64 ≤ (n : Int) := by
    have hnegative : Json.leastInt64 ≤ 0 := by decide
    omega
  have hfits : Json.int64? (.number (.int n)) = some (n : Int) := by
    rw [Json.int64?, Json.Number.toInt64?, if_pos ⟨hleast, hn⟩]
  simp only [ReportedColumn.flag, h, Option.bind_some, hfits]
  exact decide_eq_decide.mpr Int.natCast_pos

/-- A row of `table_info` is read as the column it describes, up to the exclusion of repeated
values. -/
lemma ofTableInfo_of_describes {row : Row} {column : ReportedColumn}
    (h : DescribesColumn row column) :
    ReportedColumn.ofTableInfo row = .ok { column with unique := false } := by
  obtain ⟨hname, htype, hnull, hdefault, place, hplace, hfits, hkey⟩ := h
  obtain ⟨name, declaredType, notNull, default, primaryKey, unique⟩ := column
  have hnotNull : ReportedColumn.flag row "notnull" = notNull := by
    cases notNull with
    | false => exact flag_eq_decide hnull (by decide)
    | true => exact flag_eq_decide hnull (by decide)
  have hprimaryKey : ReportedColumn.flag row "pk" = primaryKey := by
    rw [flag_eq_decide hplace hfits, Bool.eq_iff_iff, decide_eq_true_iff]
    exact hkey
  cases default with
  | none =>
    simp [ReportedColumn.ofTableInfo, hname, htype, hdefault, hnotNull, hprimaryKey, Json.string?]
  | some literal =>
    simp [ReportedColumn.ofTableInfo, hname, htype, hdefault, hnotNull, hprimaryKey, Json.string?]

lemma ofTableInfoRows_of_describes {rows : List Row} (h : List.Forall₂ DescribesColumn rows live) :
    ReportedColumn.ofTableInfoRows rows =
      .ok (live.map fun column => { column with unique := false }) := by
  induction h with
  | nil => rfl
  | cons hfirst _ ih =>
    rw [ReportedColumn.ofTableInfoRows, ofTableInfo_of_describes hfirst, ih]
    rfl

/-- The indexes that stand for constraints are found by their names. -/
lemma constraintIndexNames_of_describes {rows : List Row} {indexes : List ReportedIndex}
    (h : List.Forall₂ DescribesIndex rows indexes) :
    ReportedColumn.constraintIndexNames rows =
      (indexes.filter fun index => index.origin == "u").map ReportedIndex.name := by
  induction h with
  | nil => rfl
  | @cons row index rows indexes hfirst _ ih =>
    obtain ⟨hname, horigin, hunique⟩ := hfirst
    have hrest : rows.filterMap ReportedColumn.constraintIndexName? =
        (indexes.filter fun index => index.origin == "u").map ReportedIndex.name := ih
    have hread : ReportedColumn.constraintIndexName? row =
        if index.origin = "u" then some index.name else none := by
      by_cases hconstraint : index.origin = "u"
      · have hflag : ReportedColumn.flag row "unique" = true :=
          flag_eq_decide (hunique hconstraint) (by decide)
        simp [ReportedColumn.constraintIndexName?, horigin, hname, hflag, hconstraint, Json.string?]
      · simp [ReportedColumn.constraintIndexName?, horigin, hconstraint, Json.string?]
    rw [ReportedColumn.constraintIndexNames, List.filterMap_cons, hread, hrest]
    by_cases hconstraint : index.origin = "u" <;> simp [hconstraint]

/-- The rows for an index are read as the column that it has to itself. -/
lemma onlyColumn?_of_namesColumns {names : List Row} {columns : List String}
    (h : NamesColumns names columns) (column : String) :
    ReportedColumn.onlyColumn? names = some column ↔ columns = [column] := by
  cases h with
  | nil => simp [ReportedColumn.onlyColumn?]
  | cons hfirst hrest =>
    cases hrest with
    | nil => simp [ReportedColumn.onlyColumn?, hfirst, Json.string?]
    | cons _ _ => simp [ReportedColumn.onlyColumn?]

/-- The columns that are found for indexes are those which one of them has to itself. -/
lemma columnsOfIndexes_of_describes {indexes : List ReportedIndex}
    (h : ∀ index ∈ indexes, ∃ names,
      storage (.indexInfo index.name) state = (.ok (.rows names), state) ∧
        NamesColumns names index.columns) :
    (columnsOfIndexes (indexes.map ReportedIndex.name)).Ensures (.ofStorage storage fun _ => True)
      (fun result after => after = state ∧ ∃ found, result = .ok found ∧
        ∀ column, column ∈ found ↔ ∃ index ∈ indexes, index.columns = [column]) state := by
  induction indexes with
  | nil => exact ⟨rfl, [], rfl, by simp⟩
  | cons first rest ih =>
    obtain ⟨⟨names, hanswer, hnames⟩, hrest⟩ := List.forall_mem_cons.mp h
    refine Ensures.ask hanswer trivial ((ih hrest).bind ?_ ?_)
    · rintro found after ⟨rfl, _, hfound, hmem⟩
      cases hfound
      refine ⟨rfl, _, rfl, fun column => ?_⟩
      have hhead := onlyColumn?_of_namesColumns hnames column
      simp only [List.mem_append, Option.mem_toList, hmem, List.mem_cons,
        exists_eq_or_imp]
      exact or_congr_left hhead
    · rintro reason after ⟨-, found, hfound, -⟩
      cases hfound

/-- What a storage reports of a table is found. -/
lemma reportedColumns_of_reports (hplain : isPlainName table = true)
    (h : Reports storage state table live) :
    (reportedColumns table).Ensures (.ofStorage storage fun _ => True)
      (fun result after => result = .ok live ∧ after = state) state := by
  obtain ⟨-, ⟨rows, hcolumns, hrows⟩, indexRows, indexes, hindexes, hdescribe, hinfo, hunique⟩ := h
  rw [reportedColumns_of_plain hplain]
  refine Ensures.ask hcolumns trivial ?_
  simp only [Reply.toRows, ofTableInfoRows_of_describes hrows, done_ok_bind, constrainedColumns,
    send_bind]
  refine Ensures.ask hindexes trivial ?_
  simp only [constraintIndexNames_of_describes hdescribe]
  have hconstraints : ∀ index ∈ indexes.filter fun index => index.origin == "u", ∃ names,
      storage (.indexInfo index.name) state = (.ok (.rows names), state) ∧
        NamesColumns names index.columns := by
    intro index hindex
    obtain ⟨hmem, horigin⟩ := List.mem_filter.mp hindex
    exact hinfo index hmem (eq_of_beq horigin)
  refine (columnsOfIndexes_of_describes hconstraints).bind ?_ ?_
  · rintro found after ⟨rfl, _, hfound, hmem⟩
    cases hfound
    refine ⟨congrArg Except.ok ?_, rfl⟩
    have hread : ∀ column ∈ live, decide (column.name ∈ found) = column.unique := by
      intro column hcolumn
      rw [Bool.eq_iff_iff, decide_eq_true_iff, hmem, hunique column hcolumn]
      simp only [List.mem_filter, beq_iff_eq, and_assoc]
    rw [List.map_map]
    conv_rhs => rw [← List.map_id live]
    refine List.map_congr_left fun column hcolumn => ?_
    simp only [Function.comp_apply, hread column hcolumn, id]
  · rintro reason after ⟨-, found, hfound, -⟩
    cases hfound

/-- A table that a storage reports is found with its columns. -/
lemma currentColumns_of_reports (hplain : isPlainName table = true) (hne : live ≠ [])
    (h : Reports storage state table live) :
    (currentColumns table).Ensures (.ofStorage storage fun _ => True)
      (fun result after => result = .ok (some live) ∧ after = state) state := by
  obtain ⟨row, rest, hfound⟩ := h.found
  unfold currentColumns
  rw [hasTable_bind]
  refine Ensures.ask hfound trivial ?_
  refine (reportedColumns_of_reports hplain h).bind ?_ ?_
  · rintro columns after ⟨hcolumns, rfl⟩
    obtain rfl := Except.ok.inj hcolumns
    have hnonempty : columns.isEmpty = false := by
      rw [List.isEmpty_eq_false_iff]
      exact hne
    simp only [hnonempty]
    exact ⟨rfl, rfl⟩
  · rintro reason after ⟨hreason, -⟩
    cases hreason

end Migration

end DocTables
