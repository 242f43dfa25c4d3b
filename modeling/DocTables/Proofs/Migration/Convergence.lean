import DocTables.Proofs.Migration.LiveTable
import DocTables.Proofs.Migration.CrashSafety
import Mathlib.Data.List.Forall2

/-!
# Migrations converge in one step

Whatever columns a table has, and whichever of the four courses its migration takes, the columns
that are reported afterwards agree with the declared ones (`carryOut_plan_agrees`).  So nothing is
left to do: a plan for columns that agree only creates indexes, and a second migration to the same
properties never rebuilds the table (`migration_converges`).

Nothing is assumed of the storage but that it keeps the columns of definitions and reports what it
keeps.
-/

namespace DocTables.Migration

open Dialogue

/-! ## Columns that agree with their declarations -/

/-- The columns of a live table agree with a declared table: none of them is undeclared, and every
declared column is there without a difference. -/
structure Agrees (table : Table) (live : List ReportedColumn) : Prop where
  declared : ∀ column ∈ live, (table.column? column.name).isSome = true
  matched : ∀ column ∈ table.columns, ∃ current,
    live.find? (fun current => current.name == column.name) = some current ∧
      columnDifferences column current = []

variable {options : MigrationOptions} {table : String} {properties : PropertySet} {desired : Table}
  {live : List ReportedColumn}

/-- There is nothing to do but to create indexes on a table whose columns agree. -/
lemma Agrees.make_eq (h : Agrees desired live) (options : MigrationOptions) :
    Plan.make options desired (some live) =
      ⟨desired.name, .unchanged, Plan.indexSteps options desired, [], []⟩ := by
  have hremoved : removedColumns desired live = [] := by
    rw [removedColumns, List.map_eq_nil_iff, List.filter_eq_nil_iff]
    intro column hcolumn hnone
    rw [Option.isNone_iff_eq_none] at hnone
    have hdeclared := h.declared column hcolumn
    rw [hnone] at hdeclared
    cases hdeclared
  have hdifferences : differences desired live = [] := by
    rw [differences, hremoved, List.nil_append, List.flatMap_eq_nil_iff]
    intro column hcolumn
    obtain ⟨current, hfound, hsame⟩ := h.matched column hcolumn
    rw [declaredDifferences, hfound]
    exact hsame
  have hadditions : additions desired live = [] := by
    rw [additions, List.filter_eq_nil_iff]
    intro column hcolumn
    obtain ⟨current, hfound, -⟩ := h.matched column hcolumn
    simp [hfound]
  simp [Plan.make, hdifferences, hadditions]

/-- A column that was created as declared does not differ. -/
lemma columnDifferences_reported (column : Column) :
    columnDifferences column column.reported = [] := by
  have htype : column.type.isNamedBy column.type.name = true := by
    cases column.type <;> rfl
  have hunique : column.primaryKey = true ∨
      column.unique = (column.unique && !column.primaryKey) := by
    cases column.primaryKey with
    | true => exact .inl rfl
    | false => exact .inr (Bool.and_true column.unique).symm
  simp only [columnDifferences, Column.reported, htype, hunique, if_true, List.append_nil]

/-- A column is found among those that were created, under its name. -/
lemma find?_reported {columns : List Column} {column : Column}
    (hnames : (columns.map Column.name).Nodup) (hmem : column ∈ columns) :
    (columns.map Column.reported).find? (fun current => current.name == column.name) =
      some column.reported := by
  have hreported : ((columns.map Column.reported).map ReportedColumn.name).Nodup := by
    rw [List.map_map]
    exact hnames
  exact (find?_name_eq_some_iff hreported).mpr ⟨List.mem_map_of_mem hmem, rfl⟩

/-- A declared column is found under its name. -/
lemma isSome_column? {column : Column} (hmem : column ∈ desired.columns) :
    (desired.column? column.name).isSome = true := by
  rw [Table.column?, List.find?_isSome]
  exact ⟨column, hmem, beq_self_eq_true column.name⟩

/-- The columns of a table that was created as declared agree. -/
lemma agrees_reported (hnames : (desired.columns.map Column.name).Nodup) :
    Agrees desired (desired.columns.map Column.reported) := by
  constructor
  · intro reported hreported
    obtain ⟨column, hcolumn, rfl⟩ := List.mem_map.mp hreported
    exact isSome_column? hcolumn
  · intro column hcolumn
    exact ⟨column.reported, find?_reported hnames hcolumn, columnDifferences_reported column⟩

/-- Where nothing calls for a rebuild, the columns agree once the missing ones were added. -/
lemma agrees_append (hnames : (desired.columns.map Column.name).Nodup)
    (hsame : differences desired live = []) :
    Agrees desired (live ++ (additions desired live).map Column.reported) := by
  rw [differences, List.append_eq_nil_iff, List.flatMap_eq_nil_iff] at hsame
  obtain ⟨hremoved, hdeclared⟩ := hsame
  constructor
  · intro reported hreported
    rcases List.mem_append.mp hreported with hlive | hadded
    · rw [removedColumns, List.map_eq_nil_iff, List.filter_eq_nil_iff] at hremoved
      have hfound := hremoved reported hlive
      rwa [Bool.not_eq_true, Option.isNone_eq_false_iff] at hfound
    · obtain ⟨column, hcolumn, rfl⟩ := List.mem_map.mp hadded
      exact isSome_column? (List.mem_filter.mp hcolumn |>.1)
  · intro column hcolumn
    have hdifferences := hdeclared column hcolumn
    rw [declaredDifferences] at hdifferences
    cases hfound : live.find? fun current => current.name == column.name with
    | some current =>
      rw [hfound] at hdifferences
      refine ⟨current, ?_, hdifferences⟩
      rw [List.find?_append, hfound, Option.some_or]
    | none =>
      -- the column is missing, and so it is one of those that were added
      have haddable : column.isAddable = true := by
        rw [hfound] at hdifferences
        by_contra hnot
        simp [hnot] at hdifferences
      have hadded : column ∈ additions desired live :=
        List.mem_filter.mpr ⟨hcolumn, by simp [hfound, haddable]⟩
      have hnames' : ((additions desired live).map Column.name).Nodup :=
        hnames.sublist (List.Sublist.map _ List.filter_sublist)
      refine ⟨column.reported, ?_, columnDifferences_reported column⟩
      rw [List.find?_append, hfound, Option.none_or]
      exact find?_reported hnames' hadded

/-- A table with a column only agrees with columns that are there. -/
lemma Agrees.ne_nil (h : Agrees desired live) (hne : desired.columns ≠ []) : live ≠ [] := by
  obtain ⟨column, hcolumn⟩ := List.exists_mem_of_ne_nil _ hne
  obtain ⟨current, hfound, -⟩ := h.matched column hcolumn
  exact List.ne_nil_of_mem (List.mem_of_find?_eq_some hfound)

/-! ## The columns after a plan -/

variable {τ : Type} {storage : Storage MigrationStatement τ}
  {columns : τ → String → Option (List ReportedColumn)} {state : τ}

/-- The runs of a storage, in which any statement may be asked for. -/
abbrev runs (storage : Storage MigrationStatement τ) : World MigrationStatement τ :=
  .ofRuns storage fun _ => True

/-- Creating indexes leaves all columns alone. -/
lemma carryOut_createIndex_columns (hkeeps : KeepsDefinitions storage columns)
    (indexed : List String) (copied : Nat) (state : τ) :
    (carryOut options properties desired live copied (indexed.map (.createIndex table))).Ensures
      (runs storage) (fun _ after => columns after = columns state) state := by
  induction indexed generalizing state with
  | nil => rfl
  | cons column rest ih =>
    rw [List.map_cons, carryOut_cons _ _ rfl]
    refine ⟨trivial, fun reply after hanswer => (ih after).mono fun _ last hlast => ?_⟩
    exact hlast.trans (hkeeps.createIndex hanswer)

/-- The columns that were added are the last ones of their table, in order. -/
lemma carryOut_addColumn_columns (hkeeps : KeepsDefinitions storage columns) {added : List Column}
    (hplain : ∀ column ∈ added, isPlainName column.name = true) {found : List ReportedColumn}
    (indexed : List String) (copied : Nat) (hfound : columns state table = some found) :
    (carryOut options properties desired live copied
      (added.map (.addColumn table) ++ indexed.map (.createIndex table))).Ensures
      (runs storage)
      (fun _ after => columns after table = some (found ++ added.map Column.reported)) state := by
  induction added generalizing state found with
  | nil =>
    refine (carryOut_createIndex_columns hkeeps indexed copied state).mono fun _ after hafter => ?_
    rw [hafter, hfound, List.map_nil, List.append_nil]
  | cons column rest ih =>
    obtain ⟨hname, hrest⟩ := List.forall_mem_cons.mp hplain
    rw [List.map_cons, List.map_cons, List.cons_append, carryOut_cons _ _ rfl]
    refine ⟨trivial, fun reply after hanswer => ?_⟩
    have hadded := hkeeps.columns_addColumn hname hfound hanswer
    refine (ih hrest hadded).mono fun _ last hlast => ?_
    rw [hlast, List.append_assoc, List.singleton_append]

/-- Copying the rows of a table leaves all columns alone. -/
lemma copyTable_columns (hkeeps : KeepsDefinitions storage columns) (source target : String)
    (state : τ) :
    (copyTable options source target properties desired live).Ensures (runs storage)
      (fun _ after => columns after = columns state) state := by
  have hsends : (copyTable options source target properties desired live).Ensures
      (.ofStatements fun statement =>
        statement.isRead = true ∨ ∃ copy limit offset, statement = .copyRows copy limit offset)
      (fun _ _ => True) () :=
    copyTable_sends (.inl rfl) fun limit offset => .inr ⟨_, limit, offset, rfl⟩
  refine (hsends.keeps ?_).allow fun _ _ => trivial
  rintro statement reply before after (hread | ⟨copy, limit, offset, rfl⟩) hanswer
  · rw [hkeeps.read hread hanswer]
  · exact hkeeps.copyRows hanswer

/-- A rebuild leaves the table with the columns that are declared. -/
lemma carryOut_rebuild_columns (hkeeps : KeepsDefinitions storage columns)
    (hsuffix : options.shadowSuffix ≠ "")
    (hplain : ∀ column ∈ desired.columns, isPlainName column.name = true) (indexed : List String)
    (copied : Nat) (state : τ) :
    (carryOut options properties desired live copied
      (Plan.rebuildSteps desired (options.shadowName desired.name) ++
        indexed.map (.createIndex desired.name))).Ensures (runs storage)
      (fun result after => ∀ moved, result = .ok moved →
        columns after desired.name = some (desired.columns.map Column.reported)) state := by
  have hne : options.shadowName desired.name ≠ desired.name := shadowName_ne hsuffix
  simp only [Plan.rebuildSteps, List.cons_append, List.nil_append]
  rw [carryOut_cons _ _ rfl]
  refine ⟨trivial, fun reply created hcreate => ?_⟩
  have hshadow : columns created (options.shadowName desired.name) =
      some (desired.columns.map Column.reported) :=
    hkeeps.columns_createTable (by exact hplain) hcreate
  rw [carryOut_copyRows]
  refine (copyTable_columns hkeeps _ _ created).bind ?_ ?_
  · intro moved filled hfilled
    rw [carryOut_cons _ _ rfl]
    refine ⟨trivial, fun reply dropped hdrop => ?_⟩
    rw [carryOut_cons _ _ rfl]
    refine ⟨trivial, fun reply renamed hrename => ?_⟩
    refine (carryOut_createIndex_columns hkeeps indexed moved renamed).mono
      fun _ after hafter _ _ => ?_
    rw [hafter, hkeeps.renameTable hne hrename, Function.update_self, hkeeps.dropTable hdrop,
      Function.update_of_ne hne, hfilled, hshadow]
  · intro reason filled _ moved hmoved
    cases hmoved

/-- Whichever plan is made for the columns that a table has, they agree with the declared ones once
it is carried out. -/
lemma carryOut_plan_agrees (hkeeps : KeepsDefinitions storage columns)
    (hsuffix : options.shadowSuffix ≠ "")
    (hplain : ∀ column ∈ desired.columns, isPlainName column.name = true)
    (hnames : (desired.columns.map Column.name).Nodup) :
    (carryOut options properties desired ((columns state desired.name).getD []) 0
      (Plan.make options desired (columns state desired.name)).steps).Ensures (runs storage)
      (fun result after => ∀ moved, result = .ok moved →
        ∃ found, columns after desired.name = some found ∧ Agrees desired found) state := by
  obtain ⟨indexed, hindexed⟩ := indexSteps_eq options desired
  cases hlive : columns state desired.name with
  | none =>
    simp only [Plan.make, hindexed, Option.getD_none]
    rw [carryOut_cons _ _ rfl]
    refine ⟨trivial, fun reply created hcreate => ?_⟩
    have hcreated := hkeeps.columns_createTable hplain hcreate
    refine (carryOut_createIndex_columns hkeeps indexed 0 created).mono fun _ after hafter _ _ => ?_
    rw [hafter]
    exact ⟨_, hcreated, agrees_reported hnames⟩
  | some live =>
    have hadd : ∀ added : List Column, (∀ column ∈ added, isPlainName column.name = true) →
        Agrees desired (live ++ added.map Column.reported) →
        (carryOut options properties desired live 0
          (added.map (.addColumn desired.name) ++ indexed.map (.createIndex desired.name))).Ensures
          (runs storage) (fun result after => ∀ moved, result = .ok moved →
            ∃ found, columns after desired.name = some found ∧ Agrees desired found) state := by
      intro added hplain' hagrees
      refine (carryOut_addColumn_columns hkeeps hplain' indexed 0 hlive).mono ?_
      exact fun _ after hafter _ _ => ⟨_, hafter, hagrees⟩
    simp only [Plan.make, hindexed, Option.getD_some]
    split
    · refine (carryOut_rebuild_columns hkeeps hsuffix hplain indexed 0 state).mono ?_
      exact fun _ after hafter moved hmoved => ⟨_, hafter moved hmoved, agrees_reported hnames⟩
    · rename_i hsame
      have hdifferences : differences desired live = [] := by simpa using hsame
      have hagrees := agrees_append hnames hdifferences
      split
      · exact hadd _ (fun column hcolumn => hplain column (List.mem_filter.mp hcolumn).1) hagrees
      · rename_i hnone
        have hadditions : additions desired live = [] := by simpa using hnone
        rw [hadditions] at hagrees
        exact hadd [] (fun _ h => absurd h List.not_mem_nil) hagrees

/-! ## The second migration -/

/-- What a second migration may ask for: it looks, it drops a shadow that was left behind, and it
creates indexes. -/
def Idle (options : MigrationOptions) (table : String) (statement : MigrationStatement) : Prop :=
  statement.isRead = true ∨ statement = .dropTable (options.shadowName table) ∨
    ∃ column, statement = .createIndex table column

/-- Looking at a table is idle. -/
lemma currentColumns_idle (hplain : isPlainName table = true) (hne : live ≠ [])
    (h : Reports storage state table live) :
    (currentColumns table).Ensures (.ofRuns storage (Idle options table))
      (fun result after => result = .ok (some live) ∧ after = state) state :=
  ((currentColumns_of_reports hplain hne h).ofRuns (currentColumns_reads table)).allow
    fun _ hread => .inl hread

/-- Clearing up beside a table that is there only drops its shadow. -/
lemma clearUp_idle (hkeeps : KeepsDefinitions storage columns)
    (hfound : ∃ row rest, storage (.findTable table) state = (.ok (.rows (row :: rest)), state)) :
    (clearUp options table).Ensures (.ofRuns storage (Idle options table))
      (fun _ after => after = state ∨
        ∃ reply, storage (.dropTable (options.shadowName table)) state = (.ok reply, after))
      state := by
  obtain ⟨row, rest, hfound⟩ := hfound
  unfold clearUp
  rw [hasTable_bind]
  refine ⟨.inl rfl, fun reply after hanswer => ?_⟩
  obtain rfl := hkeeps.read rfl hanswer
  cases hrows : reply.toRows with
  | nil =>
    simp only [hrows, List.isEmpty_nil, Bool.not_true, Bool.false_eq_true, if_false]
    exact .inl rfl
  | cons _ _ =>
    simp only [hrows, List.isEmpty_cons, Bool.not_false, if_true, hasTable_bind]
    refine ⟨.inl rfl, fun reply' after' hanswer' => ?_⟩
    obtain ⟨hreply, rfl⟩ := Prod.mk.inj (hfound.symm.trans hanswer')
    obtain rfl := Except.ok.inj hreply
    exact ⟨.inr (.inl rfl), fun reply' after' hdrop => .inr ⟨reply', hdrop⟩⟩

/-- Creating indexes is idle. -/
lemma carryOut_createIndex_idle (indexed : List String) (copied : Nat) (state : τ) :
    (carryOut options properties desired live copied (indexed.map (.createIndex table))).Ensures
      (.ofRuns storage (Idle options table)) (fun _ _ => True) state := by
  induction indexed generalizing state with
  | nil => trivial
  | cons column rest ih =>
    rw [List.map_cons, carryOut_cons _ _ rfl]
    exact ⟨.inr (.inr ⟨column, rfl⟩), fun _ after _ => ih after⟩

/-- A migration of a table whose columns agree leaves it as it is. -/
lemma migrate_idle (hkeeps : KeepsDefinitions storage columns)
    (hdesired : desiredTable table properties = .ok desired) (hplain : isPlainName table = true)
    (hne : live ≠ []) (hagrees : Agrees desired live) (hreports : Reports storage state table live)
    (hcleared : ∀ reply cleared,
      storage (.dropTable (options.shadowName table)) state = (.ok reply, cleared) →
      Reports storage cleared table live) :
    (migrate options table properties).Ensures (.ofRuns storage (Idle options table))
      (fun result _ => ∀ change, result = .ok change → change = .unchanged) state := by
  obtain ⟨indexed, hindexed⟩ := indexSteps_eq options desired
  obtain ⟨rfl, -⟩ := eq_of_desiredTable hdesired
  unfold migrate
  simp only [hdesired, liftM_eq_done, done_ok_bind]
  refine (clearUp_idle hkeeps hreports.found).bind ?_ ?_
  · intro _ cleared hstate
    have hreports' : Reports storage cleared desired.name live := by
      rcases hstate with rfl | ⟨reply, hdrop⟩
      · exact hreports
      · exact hcleared reply cleared hdrop
    refine (currentColumns_idle hplain hne hreports').bind ?_ ?_
    · rintro found after ⟨hfound, rfl⟩
      obtain rfl := Except.ok.inj hfound
      simp only [hagrees.make_eq options, hindexed]
      refine (carryOut_createIndex_idle indexed 0 after).bind ?_ ?_
      · rintro moved last - change hchange
        exact (Except.ok.inj hchange).symm
      · rintro reason last - change hchange
        cases hchange
    · rintro reason after ⟨hreason, -⟩
      cases hreason
  · intro reason cleared _ change hchange
    cases hchange

/-! ## One step -/

/-- Once the steps of a plan are carried out, whatever columns the table had before, a plan for the
columns that are then reported does nothing but create indexes, and another migration leaves the
table as it is. -/
theorem migration_converges {start after : τ} {copied : Nat}
    (hkeeps : KeepsDefinitions storage columns) (hsuffix : options.shadowSuffix ≠ "")
    (hdesired : desiredTable table properties = .ok desired)
    (hrun : (carryOut options properties desired ((columns start table).getD []) 0
      (Plan.make options desired (columns start table)).steps).run storage start =
        (.ok copied, after))
    (hreports : ∀ live, columns after table = some live → Reports storage after table live)
    (hcleared : ∀ reply cleared live,
      storage (.dropTable (options.shadowName table)) after = (.ok reply, cleared) →
      columns cleared table = some live → Reports storage cleared table live) :
    (preview options table properties).run storage after =
        (.ok ⟨table, .unchanged, Plan.indexSteps options desired, [], []⟩, after) ∧
      (∀ change last, (migrate options table properties).run storage after = (.ok change, last) →
        change = .unchanged) ∧
      ∀ exchange ∈ (migrate options table properties).record storage after,
        Idle options table exchange.1 := by
  obtain ⟨rfl, hcolumns⟩ := eq_of_desiredTable hdesired
  have hplain : ∀ column ∈ desired.columns, isPlainName column.name = true := by
    intro column hcolumn
    rw [hcolumns] at hcolumn
    obtain ⟨property, hproperty, rfl⟩ := List.mem_map.mp hcolumn
    exact properties.names_valid property hproperty
  have hnames : (desired.columns.map Column.name).Nodup := by
    rw [hcolumns, PropertySet.columns, List.map_map]
    exact properties.names_nodup
  obtain ⟨hname, hne⟩ := plain_of_desiredTable hdesired
  obtain ⟨live, hlive, hagrees⟩ :=
    (carryOut_plan_agrees hkeeps hsuffix hplain hnames).of_run hrun copied rfl
  have hlive' : live ≠ [] := hagrees.ne_nil hne
  have hreported := hreports live hlive
  have hidle := migrate_idle hkeeps hdesired hname hlive' hagrees hreported
    fun reply cleared hdrop => hcleared reply cleared live hdrop (by
      rw [hkeeps.dropTable hdrop, Function.update_of_ne (shadowName_ne hsuffix).symm, hlive])
  refine ⟨?_, fun change last hrun' => hidle.of_run hrun' change rfl, hidle.allowed_of_record⟩
  -- the preview only looks at the table, so it leaves the storage as it is
  have hpreview : (preview options desired.name properties).Ensures
      (.ofStorage storage fun _ => True)
      (fun result reached => result = .ok ⟨desired.name, .unchanged,
        Plan.indexSteps options desired, [], []⟩ ∧ reached = after) after := by
    unfold preview
    simp only [hdesired, liftM_eq_done, done_ok_bind]
    refine (currentColumns_of_reports hname hlive' hreported).bind ?_ ?_
    · rintro found reached ⟨hfound, rfl⟩
      obtain rfl := Except.ok.inj hfound
      rw [hagrees.make_eq options]
      exact ⟨rfl, rfl⟩
    · rintro reason reached ⟨hreason, -⟩
      cases hreason
  obtain ⟨result, reached, hrun', rfl, rfl⟩ := hpreview.run_eq
  exact hrun'

/-! ## A database in memory -/

/-- The columns of the tables of a database, as it reports them. -/
def databaseColumns (database : Database) (name : String) : Option (List ReportedColumn) :=
  (database.table? name).map fun stored => stored.columns.map Column.reported

/-- A change that keeps names and columns is not seen in the columns. -/
lemma databaseColumns_mapTable {database : Database} {name : String}
    {change : StoredTable → StoredTable} (hname : ∀ stored, (change stored).name = stored.name)
    (hcolumns : ∀ stored, (change stored).columns = stored.columns) :
    databaseColumns (database.mapTable name change) = databaseColumns database := by
  funext other
  rw [databaseColumns, databaseColumns, Database.table?_mapTable hname]
  split
  · rw [Option.map_map]
    congr 1
    funext stored
    simp only [Function.comp_apply, hcolumns]
  · rfl

/-- A database keeps the columns of its definitions. -/
lemma keepsDefinitions_database : KeepsDefinitions Database.storage databaseColumns where
  read := by
    intro statement reply before after hread hanswer
    have happly := Database.apply_eq_ok hanswer
    cases statement with
    | readAll name =>
      rw [Database.apply] at happly
      split at happly <;> cases happly
      rfl
    | findTable _ | tableInfo _ | indexList _ | indexInfo _ =>
      cases happly
      rfl
    | _ => cases hread
  createTable := by
    intro table reply before after hplain hanswer
    have happly := Database.apply_eq_ok hanswer
    rw [Database.apply] at happly
    split at happly
    · cases happly
    · rename_i hfree
      cases happly
      refine ⟨table.columns.map Column.reported, ?_, ?_⟩
      · rw [List.forall₂_map_right_iff, List.forall₂_same]
        exact fun column hcolumn => ReportedColumn.ofDefinition?_definition (hplain column hcolumn)
      · funext name
        rw [databaseColumns, Database.table?_append, Function.update_apply]
        by_cases hname : name = table.name
        · rw [if_pos hname, hname, hfree, Option.none_or, if_pos rfl, Option.map_some]
        · rw [if_neg hname, if_neg fun h => hname h.symm, Option.or_none, databaseColumns]
  addColumn := by
    intro table column reply before after hplain hanswer
    have happly := Database.apply_eq_ok hanswer
    rw [Database.apply] at happly
    split at happly
    · cases happly
      refine ⟨column.reported, ReportedColumn.ofDefinition?_definition hplain, ?_⟩
      funext name
      rw [databaseColumns, Database.table?_mapTable, Function.update_apply]
      · by_cases hname : name = table
        · rw [if_pos hname, if_pos hname, hname, databaseColumns, Option.map_map, Option.map_map]
          congr 1
          funext stored
          exact List.map_append
        · rw [if_neg hname, if_neg hname, databaseColumns]
      · exact fun _ => rfl
    · cases happly
  copyRows := by
    intro copy limit offset reply before after hanswer
    have happly := Database.apply_eq_ok hanswer
    rw [Database.apply] at happly
    split at happly <;> cases happly
    exact databaseColumns_mapTable (fun _ => rfl) fun _ => rfl
  dropTable := by
    intro table reply before after hanswer
    have happly := Database.apply_eq_ok hanswer
    rw [Database.apply] at happly
    split at happly <;> cases happly
    funext name
    rw [databaseColumns, Database.table?_filter, Function.update_apply]
    split
    · rfl
    · rfl
  renameTable := by
    intro source target reply before after hne hanswer
    have happly := Database.apply_eq_ok hanswer
    rw [Database.apply] at happly
    split at happly <;> cases happly
    rename_i hfree
    funext name
    rw [databaseColumns, Database.table?_rename _ hne hfree, Function.update_apply,
      Function.update_apply]
    split
    · rw [databaseColumns, Option.map_map]
      rfl
    · split
      · rfl
      · rfl
  createIndex := by
    intro table column reply before after hanswer
    have happly := Database.apply_eq_ok hanswer
    rw [Database.apply] at happly
    split at happly
    · split at happly <;> cases happly <;> rfl
    · cases happly

/-- Properties with a constraint, a default and an index. -/
def contactProperties : PropertySet where
  toList := [{ Property.plain "name" .string with unique := true },
    { Property.plain "age" .number with
      default := some (.number (.int 20)), indexed := true, required := true }]
  names_valid := by
    intro property hproperty
    rcases List.mem_cons.mp hproperty with rfl | hrest
    · decide +kernel
    · rw [List.mem_singleton.mp hrest]
      decide +kernel
  names_nodup := by decide
  primaryKeys_le_one := by decide

/-- The table that the properties describe. -/
def contactTable : Table := ⟨"people", contactProperties.columns⟩

/-- The database of two people, once their names must differ and their ages are kept. -/
def contacts : Database where
  tables := [⟨"people", contactProperties.columns,
    [[("name", .string "Ada"), ("age", .number (.int 20))],
      [("name", .string "Alan"), ("age", .number (.int 20))]]⟩]
  indexes := [⟨"people_age_index", "people", "age"⟩]

/-- The columns of people are reported, with the constraint on their names. -/
lemma reports_contacts :
    Reports Database.storage contacts "people" (contactTable.columns.map Column.reported) where
  found := ⟨_, _, rfl⟩
  columns := by
    refine ⟨_, rfl, .cons ?_ (.cons ?_ .nil)⟩
    · exact describesColumn_tableInfoRow _
    · exact describesColumn_tableInfoRow _
  indexes := by
    have hcreated : ("c" : String) ≠ "u" := by decide
    refine ⟨_, [⟨"people_age_index", "c", ["age"]⟩,
      ⟨"sqlite_autoindex_people_name", "u", ["name"]⟩], rfl, .cons ?_ (.cons ?_ .nil), ?_, ?_⟩
    · exact ⟨rfl, rfl, fun h => absurd h hcreated⟩
    · exact ⟨rfl, rfl, fun _ => rfl⟩
    · intro index hindex horigin
      rcases List.mem_cons.mp hindex with rfl | hrest
      · exact absurd horigin hcreated
      · rw [List.mem_singleton.mp hrest]
        exact ⟨_, rfl, .cons rfl .nil⟩
    · decide +kernel

/-- The table of people is rebuilt, and then there is nothing left to do but to create its index. -/
theorem contacts_converge :
    (Plan.make {} contactTable (databaseColumns ⟨[people], []⟩ "people")).course = .rebuild ∧
      (preview {} "people" contactProperties).run Database.storage contacts =
        (.ok ⟨"people", .unchanged, [.createIndex "people" "age"], [], []⟩, contacts) := by
  have hdesired : desiredTable "people" contactProperties = .ok contactTable := by
    have hplain : isPlainName "people" = true := by decide +kernel
    simp [desiredTable, Table.ofProperties, hplain, contactTable, PropertySet.isEmpty,
      contactProperties]
  have hrun : (carryOut {} contactProperties contactTable
      ((databaseColumns ⟨[people], []⟩ "people").getD []) 0
      (Plan.make {} contactTable (databaseColumns ⟨[people], []⟩ "people")).steps).run
      Database.storage ⟨[people], []⟩ = (.ok 2, contacts) := rfl
  have hreports : ∀ live, databaseColumns contacts "people" = some live →
      Reports Database.storage contacts "people" live := by
    intro live hlive
    obtain rfl := Option.some.inj hlive
    exact reports_contacts
  refine ⟨by decide +kernel, ?_⟩
  refine (migration_converges keepsDefinitions_database (by decide) hdesired hrun hreports ?_).1
  intro reply cleared live hdrop
  -- there is no shadow to drop
  cases hdrop

end DocTables.Migration
