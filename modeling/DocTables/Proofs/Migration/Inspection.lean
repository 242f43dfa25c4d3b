import DocTables.Proofs.Migration.Database
import DocTables.Proofs.Migration.LiveTable

/-!
# Looking at the tables of a database

A migration looks at its table by an existence query and by three kinds of reports on columns and
indexes.  Against a database these change nothing, and what they find is the state of the table:
whether it exists, and its columns in order.
-/

namespace DocTables.Migration

open Dialogue

/-! ## What a database reports on columns -/

/-- A column as a database reports it before its constraints are looked up. -/
def reportedColumn (column : Column) : ReportedColumn := { column.reported with unique := false }

/-- The row for a column describes the column. -/
lemma describesColumn_tableInfoRow (column : Column) :
    DescribesColumn (Database.tableInfoRow column) column.reported where
  name := rfl
  type := rfl
  notNull := rfl
  default := rfl
  primaryKey := by
    obtain ⟨name, type, unique, primaryKey, indexed, notNull, default⟩ := column
    cases primaryKey with
    | false => exact ⟨0, rfl, by decide, iff_of_false (Nat.lt_irrefl 0) nofun⟩
    | true => exact ⟨1, rfl, by decide, iff_of_true Nat.one_pos rfl⟩

/-- The reports on columns are read back in order. -/
lemma ofTableInfoRows_map (columns : List Column) :
    ReportedColumn.ofTableInfoRows (columns.map Database.tableInfoRow) =
      .ok (columns.map reportedColumn) := by
  have hrows : List.Forall₂ DescribesColumn (columns.map Database.tableInfoRow)
      (columns.map Column.reported) := by
    rw [List.forall₂_map_left_iff, List.forall₂_map_right_iff, List.forall₂_same]
    exact fun column _ => describesColumn_tableInfoRow column
  rw [ofTableInfoRows_of_describes hrows, List.map_map]
  rfl

/-! ## Looking changes nothing -/

variable {condition : Database → Prop} {database : Database}

/-- The existence query tells whether the table exists. -/
lemma hasTable_ensures (name : String) (hcondition : condition database) :
    (hasTable name).Ensures (.ofStorage Database.storage condition)
      (fun result after => result = .ok (database.table? name).isSome ∧ after = database)
      database := by
  refine Ensures.ask rfl hcondition ⟨?_, rfl⟩
  cases database.table? name <;> rfl

/-- The columns of indexes are looked up without a failure. -/
lemma columnsOfIndexes_ensures (indexes : List String) (hcondition : condition database) :
    (columnsOfIndexes indexes).Ensures (.ofStorage Database.storage condition)
      (fun _ after => after = database) database := by
  induction indexes with
  | nil => rfl
  | cons index rest ih =>
    refine Ensures.ask rfl hcondition (ih.bind ?_ ?_)
    · rintro columns after rfl
      rfl
    · rintro reason after rfl
      rfl

/-- The constraints of a table are looked up without a failure. -/
lemma constrainedColumns_ensures (table : String) (hcondition : condition database) :
    (constrainedColumns table).Ensures (.ofStorage Database.storage condition)
      (fun _ after => after = database) database :=
  Ensures.ask rfl hcondition (columnsOfIndexes_ensures _ hcondition)

/-- The report on the columns of a table names them in order, unless the table's name is
refused. -/
lemma reportedColumns_ensures {table : String} {stored : StoredTable}
    (hstored : database.table? table = some stored) (hcondition : condition database) :
    (reportedColumns table).Ensures (.ofStorage Database.storage condition)
      (fun result after => after = database ∧ ∀ live, result = .ok live →
        live.map ReportedColumn.name = stored.columns.map Column.name) database := by
  by_cases hplain : isPlainName table = true
  · rw [reportedColumns_of_plain hplain]
    refine Ensures.ask rfl hcondition ?_
    simp only [hstored, Reply.toRows, ofTableInfoRows_map, done_ok_bind]
    refine (constrainedColumns_ensures table hcondition).bind ?_ ?_
    · rintro unique after rfl
      refine ⟨rfl, fun live hlive => ?_⟩
      rw [← Except.ok.inj hlive, List.map_map, List.map_map]
      rfl
    · rintro reason after rfl
      exact ⟨rfl, fun live hlive => by cases hlive⟩
  · rw [reportedColumns_of_not_plain hplain]
    exact ⟨rfl, fun live hlive => by cases hlive⟩

/-- The columns of a table are found just if the table exists, and then in order. A table that
cannot be reported on is refused. -/
lemma currentColumns_ensures (table : String) (hcondition : condition database) :
    (currentColumns table).Ensures (.ofStorage Database.storage condition)
      (fun result after => after = database ∧ ∀ live, result = .ok live →
        live.map (List.map ReportedColumn.name) =
          (database.table? table).map fun stored => stored.columns.map Column.name) database := by
  unfold currentColumns
  refine (hasTable_ensures table hcondition).bind ?_ ?_
  · rintro present after ⟨hpresent, rfl⟩
    have hpresent := Except.ok.inj hpresent
    cases hstored : after.table? table with
    | none =>
      rw [hstored] at hpresent
      simp only [hpresent, Option.isSome_none, Bool.false_eq_true, if_false]
      refine ⟨rfl, fun live hlive => ?_⟩
      rw [← Except.ok.inj hlive]
      rfl
    | some stored =>
      rw [hstored] at hpresent
      simp only [hpresent, Option.isSome_some, if_true]
      refine (reportedColumns_ensures hstored hcondition).bind ?_ ?_
      · rintro columns after' ⟨rfl, hnames⟩
        by_cases hempty : columns.isEmpty = true
        · simp only [hempty, if_true]
          exact ⟨rfl, fun live hlive => by cases hlive⟩
        · simp only [hempty]
          refine ⟨rfl, fun live hlive => ?_⟩
          rw [← Except.ok.inj hlive, Option.map_some, Option.map_some, hnames columns rfl]
      · rintro reason after' ⟨rfl, -⟩
        exact ⟨rfl, fun live hlive => by cases hlive⟩
  · rintro reason after ⟨hreason, -⟩
    cases hreason

end DocTables.Migration
