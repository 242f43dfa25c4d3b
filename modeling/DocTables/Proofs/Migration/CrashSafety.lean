import DocTables.Proofs.Migration.Copying
import DocTables.Proofs.Migration.Steps

/-!
# Migrations that are stopped lose no row

A migration is stopped between two statements, by a crash or because the next statement fails.
Whatever the statements before did, one of two things holds: the table is there with a row for each
row it had, or the table is gone and its shadow is there with a row for each row it had.  The second
case arises between the two statements that drop the old table and rename the shadow; the next
migration finishes them before it does anything else.

`Preserved` is this invariant.  It is kept by every statement of a migration (`migrate_ensures`), so
it holds after any number of attempts, each of them stopped anywhere.  What a table can become is
`Successor`: its columns are extended in place, its rows are reshaped all at once, or it is renamed.
-/

namespace DocTables.Migration

open Dialogue

/-! ## What a table becomes -/

/-- The tables that a table becomes under migrations, each with all its rows. -/
inductive Successor (original : StoredTable) : StoredTable → Prop
  /-- The table as it was. -/
  | same : Successor original original
  /-- A column was added in place, and every row was filled. -/
  | extended {stored : StoredTable} (column : Column) (h : Successor original stored) :
    Successor original ⟨stored.name, stored.columns ++ [column],
      stored.rows.map (Database.filledRow column)⟩
  /-- Every row was copied in the shape of properties; a column that the table had keeps its
  values. -/
  | reshaped {stored : StoredTable} (source target : String) (properties : PropertySet)
    (h : Successor original stored) :
    Successor original ⟨target, properties.columns, stored.rows.map (Database.copiedRow
      (.ofProperties source target properties (stored.columns.map Column.name)))⟩
  /-- The table was given another name. -/
  | renamed {stored : StoredTable} (name : String) (h : Successor original stored) :
    Successor original ⟨name, stored.columns, stored.rows⟩

/-- The rows of a successor are made of the rows of the table, one of each and in order. -/
lemma Successor.rows_eq_map {original stored : StoredTable} (h : Successor original stored) :
    ∃ change : Row → Row, stored.rows = original.rows.map change := by
  induction h with
  | same => exact ⟨id, by simp⟩
  | extended column _ ih =>
    obtain ⟨change, hchange⟩ := ih
    exact ⟨Database.filledRow column ∘ change, by simp [hchange]⟩
  | reshaped source target properties _ ih =>
    obtain ⟨change, hchange⟩ := ih
    exact ⟨_ ∘ change, by rw [hchange, List.map_map]⟩
  | renamed name _ ih => exact ih

/-- A table of the name holds exactly one row for each row of the original table. -/
def Survives (original : StoredTable) (database : Database) (name : String) : Prop :=
  ∃ stored, database.table? name = some stored ∧ Successor original stored ∧
    stored.rows.length = original.rows.length

/-- A successor that is found under a name survives there. -/
lemma Successor.survives {original stored : StoredTable} {database : Database} {name : String}
    (h : Successor original stored) (hstored : database.table? name = some stored) :
    Survives original database name := by
  obtain ⟨change, hchange⟩ := h.rows_eq_map
  exact ⟨stored, hstored, h, by rw [hchange, List.length_map]⟩

/-- The rows survive in the table, or in its shadow when the table is gone. -/
def Preserved (options : MigrationOptions) (table : String) (original : StoredTable)
    (database : Database) : Prop :=
  Survives original database table ∨
    database.table? table = none ∧ Survives original database (options.shadowName table)

/-- The rows survive in the table, and there is no shadow. -/
def Settled (options : MigrationOptions) (table : String) (original : StoredTable)
    (database : Database) : Prop :=
  Survives original database table ∧ database.table? (options.shadowName table) = none

variable {options : MigrationOptions} {table : String} {original stored : StoredTable}
  {database : Database} {properties : PropertySet} {desired : Table} {live : List ReportedColumn}
  {condition : Database → Prop}

/-- Once cleared up, the rows are preserved. -/
lemma Settled.preserved (h : Settled options table original database) :
    Preserved options table original database := .inl h.1

/-- Indexes play no part in what is settled. -/
lemma Settled.congr {other : Database} (h : Settled options table original database)
    (htables : other.tables = database.tables) : Settled options table original other := by
  obtain ⟨tables, indexes⟩ := other
  cases htables
  exact h

/-! ## Clearing up -/

/-- Clearing up leaves the rows in the table and no shadow. -/
lemma clearUp_ensures (hsuffix : options.shadowSuffix ≠ "")
    (h : Preserved options table original database) :
    (clearUp options table).Ensures (.ofStorage Database.storage (Preserved options table original))
      (fun result after => result = .ok () ∧ Settled options table original after) database := by
  have hne : options.shadowName table ≠ table := shadowName_ne hsuffix
  unfold clearUp
  refine (hasTable_ensures _ h).bind ?_ ?_
  · rintro hasShadow after ⟨hresult, rfl⟩
    have hshadow := Except.ok.inj hresult
    cases hfound : after.table? (options.shadowName table) with
    | none =>
      rw [hfound] at hshadow
      simp only [hshadow, Option.isSome_none, Bool.false_eq_true, if_false]
      refine ⟨rfl, ?_, hfound⟩
      rcases h with h | ⟨-, stored, hstored, -⟩
      · exact h
      · rw [hfound] at hstored
        cases hstored
    | some shadow =>
      rw [hfound] at hshadow
      simp only [hshadow, Option.isSome_some, if_true]
      refine (hasTable_ensures _ h).bind ?_ ?_
      · rintro isThere after' ⟨hresult', rfl⟩
        have hthere := Except.ok.inj hresult'
        cases hcurrent : after'.table? table with
        | some current =>
          -- the copy was not finished: the rows are still in the table
          rw [hcurrent] at hthere
          simp only [hthere, Option.isSome_some, if_true, discard_send]
          refine Ensures.ask (Database.storage_dropTable hfound) h ⟨rfl, ?_, ?_⟩
          · rcases h with ⟨stored, hstored, hsuccessor, -⟩ | ⟨hgone, -⟩
            · refine hsuccessor.survives ?_
              rw [Database.table?_filter, if_neg hne.symm]
              exact hstored
            · rw [hcurrent] at hgone
              cases hgone
          · rw [Database.table?_filter, if_pos rfl]
        | none =>
          -- the copy was finished and the table dropped: the rows are in the shadow
          rw [hcurrent] at hthere
          simp only [hthere, Option.isSome_none, Bool.false_eq_true, if_false, discard_send]
          obtain ⟨indexes, hrename⟩ := Database.storage_renameTable hfound hcurrent
          refine Ensures.ask hrename h ⟨rfl, ?_, ?_⟩
          · rcases h with ⟨stored, hstored, -⟩ | ⟨-, stored, hstored, hsuccessor, -⟩
            · rw [hcurrent] at hstored
              cases hstored
            · refine (hsuccessor.renamed table).survives ?_
              rw [Database.table?_rename _ hne hcurrent, if_pos rfl, hstored]
              rfl
          · rw [Database.table?_rename _ hne hcurrent, if_neg hne, if_pos rfl]
      · rintro reason after' ⟨hreason, -⟩
        cases hreason
  · rintro reason after ⟨hreason, -⟩
    cases hreason

/-! ## Carrying out a plan -/

/-- Creating indexes leaves the tables as they are. -/
lemma carryOut_createIndex_ensures {columns : List String} {copied : Nat}
    (hstored : database.table? table = some stored)
    (hcondition : ∀ reached : Database, reached.tables = database.tables → condition reached) :
    (carryOut options properties desired live copied (columns.map (.createIndex table))).Ensures
      (.ofStorage Database.storage condition)
      (fun result after => result = .ok copied ∧ after.tables = database.tables) database := by
  suffices h : ∀ reached : Database, reached.tables = database.tables →
      (carryOut options properties desired live copied (columns.map (.createIndex table))).Ensures
        (.ofStorage Database.storage condition)
        (fun result after => result = .ok copied ∧ after.tables = database.tables) reached from
    h database rfl
  induction columns with
  | nil => exact fun reached htables => ⟨rfl, htables⟩
  | cons column rest ih =>
    intro reached htables
    have hreached : reached.table? table = some stored := by
      rw [← hstored, Database.table?, htables, Database.table?]
    obtain ⟨indexes, hcreate⟩ := Database.storage_createIndex column hreached
    rw [List.map_cons, carryOut_cons _ _ rfl]
    exact Ensures.ask hcreate (hcondition reached htables) (ih _ htables)

/-- Adding columns and creating indexes keeps a table settled. -/
lemma carryOut_addColumn_ensures (hsuffix : options.shadowSuffix ≠ "") {added : List Column}
    {columns : List String} {copied : Nat} (h : Settled options table original database) :
    (carryOut options properties desired live copied
      (added.map (.addColumn table) ++ columns.map (.createIndex table))).Ensures
      (.ofStorage Database.storage (Preserved options table original))
      (fun _ after => Settled options table original after) database := by
  induction added generalizing database with
  | nil =>
    obtain ⟨stored, hstored, -⟩ := h.1
    refine (carryOut_createIndex_ensures hstored fun reached htables =>
      (h.congr htables).preserved).mono ?_
    rintro result after ⟨-, htables⟩
    exact h.congr htables
  | cons column rest ih =>
    obtain ⟨stored, hstored, hsuccessor, -⟩ := h.1
    have hne : options.shadowName table ≠ table := shadowName_ne hsuffix
    rw [List.map_cons, List.cons_append, carryOut_cons _ _ rfl]
    refine Ensures.ask (Database.storage_addColumn hstored) h.preserved (ih ⟨?_, ?_⟩)
    · refine (hsuccessor.extended column).survives ?_
      rw [Database.table?_mapTable, if_pos rfl, hstored, Option.map_some]
      exact fun _ => rfl
    · rw [Database.table?_mapTable, if_neg hne, h.2]
      exact fun _ => rfl

/-- Dropping a table whose rows are all in its shadow, and giving the shadow its name, settles the
table. -/
lemma carryOut_swap_ensures (hsuffix : options.shadowSuffix ≠ "") {columns : List String}
    {copied : Nat} {shadow : StoredTable} (hstored : database.table? table = some stored)
    (hsuccessor : Successor original stored)
    (hshadow : database.table? (options.shadowName table) = some shadow)
    (hcopy : Successor original shadow) :
    (carryOut options properties desired live copied
      (.dropTable table :: .renameTable (options.shadowName table) table ::
        columns.map (.createIndex table))).Ensures
      (.ofStorage Database.storage (Preserved options table original))
      (fun _ after => Settled options table original after) database := by
  have hne : options.shadowName table ≠ table := shadowName_ne hsuffix
  rw [carryOut_cons _ _ rfl]
  refine Ensures.ask (Database.storage_dropTable hstored) (.inl (hsuccessor.survives hstored)) ?_
  -- between the two statements the rows are only in the shadow
  generalize hdropped : (⟨database.tables.filter fun stored => stored.name != table,
    database.indexes.filter fun index => index.table != table⟩ : Database) = dropped
  have hgone : dropped.table? table = none := by
    rw [← hdropped, Database.table?_filter, if_pos rfl]
  have hkept : dropped.table? (options.shadowName table) = some shadow := by
    rw [← hdropped, Database.table?_filter, if_neg hne, hshadow]
  obtain ⟨indexes, hrename⟩ := Database.storage_renameTable hkept hgone
  rw [carryOut_cons _ _ rfl]
  refine Ensures.ask hrename (.inr ⟨hgone, hcopy.survives hkept⟩) ?_
  generalize hrenamed : (⟨(dropped.mapTable (options.shadowName table) fun stored =>
    { stored with name := table }).tables, indexes⟩ : Database) = renamed
  have hback : renamed.table? table = some { shadow with name := table } := by
    rw [← hrenamed, Database.table?_rename _ hne hgone, if_pos rfl, hkept]
    rfl
  have hsettled : Settled options table original renamed := by
    refine ⟨(hcopy.renamed table).survives hback, ?_⟩
    rw [← hrenamed, Database.table?_rename _ hne hgone, if_neg hne, if_pos rfl]
  refine (carryOut_createIndex_ensures hback fun reached htables =>
    (hsettled.congr htables).preserved).mono ?_
  rintro result after ⟨-, htables⟩
  exact hsettled.congr htables

/-- A rebuild that is not refused takes a settled table to a settled table. -/
lemma carryOut_rebuild_ensures (hsuffix : options.shadowSuffix ≠ "") {columns : List String}
    {copied : Nat} (hname : desired.name = table) (hcolumns : desired.columns = properties.columns)
    (hlive : (database.table? table).map (fun stored => stored.columns.map Column.name) =
      some (live.map ReportedColumn.name))
    (h : Settled options table original database) :
    (carryOut options properties desired live copied
      (Plan.rebuildSteps desired (options.shadowName table) ++
        columns.map (.createIndex table))).Ensures
      (.ofStorage Database.storage (Preserved options table original))
      (fun result after => Preserved options table original after ∧
        ∀ copied, result = .ok copied → Settled options table original after) database := by
  subst hname
  obtain ⟨⟨stored, hstored, hsuccessor, -⟩, hnoShadow⟩ := h
  have hne : options.shadowName desired.name ≠ desired.name := shadowName_ne hsuffix
  have hnames : stored.columns.map Column.name = live.map ReportedColumn.name := by
    rw [hstored] at hlive
    exact Option.some.inj hlive
  -- as long as only the shadow is written, the rows are in the table
  have hintact : ∀ reached : Database, reached.table? desired.name = some stored →
      Preserved options desired.name original reached := fun reached hreached =>
    .inl (hsuccessor.survives hreached)
  obtain ⟨created, hcreated⟩ : ∃ created : Database, created =
      ⟨database.tables ++ [⟨options.shadowName desired.name, desired.columns, []⟩],
        database.indexes⟩ := ⟨_, rfl⟩
  have hcreate :
      Database.storage (.createTable (desired.withName (options.shadowName desired.name)))
      database = (.ok (Database.wrote 0), created) := by
    rw [hcreated]
    exact Database.storage_createTable hnoShadow
  have htable : created.table? desired.name = some stored := by
    rw [hcreated, Database.table?_append, hstored, Option.some_or]
  have hempty : created.table? (options.shadowName desired.name) =
      some ⟨options.shadowName desired.name, desired.columns, []⟩ := by
    rw [hcreated, Database.table?_append, hnoShadow, Option.none_or, if_pos rfl]
  simp only [Plan.rebuildSteps, List.cons_append, List.nil_append]
  rw [carryOut_cons _ _ rfl]
  refine Ensures.ask hcreate (hintact _ hstored) ?_
  rw [carryOut_copyRows]
  -- in the course of the copy the table stays as it is
  have hkept : ∀ {copy : RowCopy} {rows copied : List Row} {reached : Database},
      copy.target = options.shadowName desired.name →
      MidCopy created copy desired.columns rows copied reached →
      reached.table? desired.name = some stored := by
    intro copy rows copied reached htarget hmid
    rw [hmid.frame _ (htarget ▸ hne.symm), htable]
  refine (copyTable_ensures (copiesSlices_midCopy hne.symm) (fun hmid => hintact _ (hkept rfl hmid))
    (⟨⟨stored, htable, rfl⟩, hempty, fun _ _ => rfl⟩ : MidCopy created _ _ _ [] _)).bind ?_ ?_
  · rintro copied after (⟨-, hmid⟩ | ⟨⟨reason, hreason⟩, -⟩)
    · have hcopy := hsuccessor.reshaped desired.name (options.shadowName desired.name) properties
      rw [hnames, ← hcolumns] at hcopy
      refine (carryOut_swap_ensures hsuffix (hkept rfl hmid) hsuccessor hmid.target hcopy).mono ?_
      exact fun result after hsettled => ⟨hsettled.preserved, fun _ _ => hsettled⟩
    · cases hreason
  · rintro reason after (⟨hreason, -⟩ | ⟨-, hmid⟩)
    · cases hreason
    · refine ⟨hintact after (hkept rfl hmid), fun copied hresult => ?_⟩
      cases hresult

/-! ## Whole migrations -/

/-- The plan for a settled table and its columns takes it to a settled table, unless it is
refused. -/
lemma carryOut_plan_ensures {found : Option (List ReportedColumn)}
    (hsuffix : options.shadowSuffix ≠ "") (hname : desired.name = table)
    (hcolumns : desired.columns = properties.columns)
    (hfound : found.map (List.map ReportedColumn.name) =
      (database.table? table).map fun stored => stored.columns.map Column.name)
    (h : Settled options table original database) :
    (carryOut options properties desired (found.getD []) 0
      (Plan.make options desired found).steps).Ensures
      (.ofStorage Database.storage (Preserved options table original))
      (fun result after => Preserved options table original after ∧
        ∀ copied, result = .ok copied → Settled options table original after) database := by
  obtain ⟨columns, hindexes⟩ := indexSteps_eq options desired
  obtain ⟨stored, hstored, -⟩ := h.1
  cases found with
  | none =>
    rw [hstored] at hfound
    cases hfound
  | some live =>
    have hadds : ∀ added : List Column,
        (carryOut options properties desired live 0
          (added.map (.addColumn desired.name) ++ Plan.indexSteps options desired)).Ensures
          (.ofStorage Database.storage (Preserved options table original))
          (fun result after => Preserved options table original after ∧
            ∀ copied, result = .ok copied → Settled options table original after) database := by
      intro added
      rw [hindexes, hname]
      refine (carryOut_addColumn_ensures hsuffix h).mono ?_
      exact fun result after hsettled => ⟨hsettled.preserved, fun _ _ => hsettled⟩
    simp only [Plan.make, Option.getD_some]
    split
    · rw [hindexes, hname]
      exact carryOut_rebuild_ensures hsuffix hname hcolumns hfound.symm h
    · split
      · exact hadds _
      · exact hadds []

/-- A migration keeps the rows at every statement, and settles the table unless it is refused. -/
lemma migrate_ensures (hsuffix : options.shadowSuffix ≠ "")
    (h : Preserved options table original database) :
    (migrate options table properties).Ensures
      (.ofStorage Database.storage (Preserved options table original))
      (fun result after => Preserved options table original after ∧
        ∀ change, result = .ok change → Settled options table original after) database := by
  unfold migrate
  cases hdesired : desiredTable table properties with
  | error reason => exact ⟨h, fun change hchange => by cases hchange⟩
  | ok desired =>
    obtain ⟨hname, hcolumns⟩ := eq_of_desiredTable hdesired
    simp only [liftM_eq_done, done_ok_bind]
    refine (clearUp_ensures hsuffix h).bind ?_ ?_
    · rintro - cleared ⟨-, hsettled⟩
      refine (currentColumns_ensures table hsettled.preserved).bind ?_ ?_
      · rintro live after ⟨rfl, hlive⟩
        refine (carryOut_plan_ensures hsuffix hname hcolumns (hlive live rfl) hsettled).bind ?_ ?_
        · rintro copied done ⟨hpreserved, hdone⟩
          exact ⟨hpreserved, fun _ _ => hdone copied rfl⟩
        · rintro reason done ⟨hpreserved, -⟩
          exact ⟨hpreserved, fun change hchange => by cases hchange⟩
      · rintro reason after ⟨rfl, -⟩
        exact ⟨hsettled.preserved, fun change hchange => by cases hchange⟩
    · rintro reason after ⟨hreason, -⟩
      cases hreason

/-! ## Attempts -/

/-- The database that attempts at migrations of a table leave, one after the other. Each attempt has
its own properties, and is stopped after a number of statements; a stop because the next statement
fails is one of them, since a statement that fails changes nothing. -/
def leftBy (options : MigrationOptions) (table : String) (start : Database)
    (attempts : List (PropertySet × Nat)) : Database :=
  attempts.foldl (fun database attempt =>
    (migrate options table attempt.1).stateAfter Database.storage attempt.2 database) start

/-- No attempt loses a row. -/
lemma preserved_leftBy (hsuffix : options.shadowSuffix ≠ "")
    (h : Preserved options table original database) (attempts : List (PropertySet × Nat)) :
    Preserved options table original (leftBy options table database attempts) := by
  induction attempts generalizing database with
  | nil => exact h
  | cons attempt rest ih =>
    obtain ⟨properties, count⟩ := attempt
    have hmigrate : (migrate options table properties).Ensures _ _ database :=
      migrate_ensures hsuffix h
    exact ih (hmigrate.holds_stateAfter (fun result after hafter => hafter.1) count)

/-- A table of two people. -/
def people : StoredTable where
  name := "people"
  columns := [.plain "name" .text]
  rows := [[("name", .string "Ada")], [("name", .string "Alan")]]

/-- Properties without the name. -/
def ageProperties : PropertySet where
  toList := [.plain "age" .number]
  names_valid := by
    intro property hproperty
    rw [List.mem_singleton.mp hproperty]
    decide +kernel
  names_nodup := List.nodup_cons.mpr ⟨List.not_mem_nil, List.nodup_nil⟩
  primaryKeys_le_one := by decide

/-- However often and wherever migrations of a table are stopped, the table holds exactly one row
for each row it had, or it is gone and its shadow holds them. A migration that is then left to its
end is never failed by the database, and unless it is refused it leaves the rows in the table and no
shadow. -/
theorem rows_survive_interruptions {start : Database} (hsuffix : options.shadowSuffix ≠ "")
    (hstart : start.table? table = some original) (attempts : List (PropertySet × Nat)) :
    (Survives original (leftBy options table start attempts) table ∨
      (leftBy options table start attempts).table? table = none ∧
        Survives original (leftBy options table start attempts) (options.shadowName table)) ∧
    ∀ properties, ∃ (result : Except MigrationError Change) (after : Database),
      (migrate options table properties).run Database.storage
          (leftBy options table start attempts) =
        (result.mapError .refused, after) ∧
      ∀ change, result = .ok change →
        Survives original after table ∧ after.table? (options.shadowName table) = none := by
  have hpreserved : Preserved options table original (leftBy options table start attempts) :=
    preserved_leftBy hsuffix (.inl (Successor.same.survives hstart)) attempts
  refine ⟨hpreserved, fun properties => ?_⟩
  obtain ⟨result, after, hrun, -, hsettled⟩ := (migrate_ensures hsuffix hpreserved).run_eq
  exact ⟨result, after, hrun, hsettled⟩

/-- A first attempt leaves an empty shadow, and a second one is stopped after the table was dropped:
the two people are in the shadow. -/
theorem people_survive_in_shadow :
    (leftBy {} "people" ⟨[people], []⟩ [(ageProperties, 6), (ageProperties, 10)]).table? "people" =
        none ∧
      Survives people (leftBy {} "people" ⟨[people], []⟩ [(ageProperties, 6), (ageProperties, 10)])
        "people_shadow" := by
  have hgone : (leftBy {} "people" ⟨[people], []⟩
      [(ageProperties, 6), (ageProperties, 10)]).table? "people" = none := by
    rw [← Option.isNone_iff_eq_none]
    decide +kernel
  have hsuffix : ({} : MigrationOptions).shadowSuffix ≠ "" := by decide
  have hstart : (⟨[people], []⟩ : Database).table? "people" = some people := rfl
  rcases (rows_survive_interruptions hsuffix hstart
    [(ageProperties, 6), (ageProperties, 10)]).1 with ⟨stored, hstored, -⟩ | ⟨-, hshadow⟩
  · rw [hgone] at hstored
    cases hstored
  · exact ⟨hgone, hshadow⟩

end DocTables.Migration
