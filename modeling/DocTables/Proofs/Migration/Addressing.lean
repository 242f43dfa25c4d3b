import DocTables.Proofs.Migration.Steps

/-!
# What a migration is about

A migration of a table sends statements about the table, about its shadow, and about columns of the
properties.  Only lookups take up what the storage answered: the names of indexes, and of the
columns that are there.

`Addressed` lists these statements.  Every migration keeps to them, whatever it is answered
(`migrate_addressed`), and its plan ends with the creation of the indexes that the properties ask
for (`exists_planSteps`).
-/

namespace DocTables.Migration

open Dialogue

variable {options : MigrationOptions} {table : String} {properties : PropertySet} {desired : Table}
  {live : List ReportedColumn}

/-! ## Names of columns -/

/-- Names that are collected, each once, are those of the columns they are collected from. -/
lemma forall_mem_collected (property : String → Prop) {chosen : List Column} {names : List String}
    (hnames : ∀ name ∈ names, property name) (hchosen : ∀ column ∈ chosen, property column.name) :
    ∀ name ∈ chosen.foldl (fun names column =>
      if column.name ∈ names then names else names ++ [column.name]) names, property name := by
  induction chosen generalizing names with
  | nil => exact hnames
  | cons first rest ih =>
    obtain ⟨hfirst, hrest⟩ := List.forall_mem_cons.mp hchosen
    rw [List.foldl_cons]
    refine ih ?_ hrest
    split
    · exact hnames
    · exact List.forall_mem_append.mpr ⟨hnames, List.forall_mem_singleton.mpr hfirst⟩

/-- The index names are those of columns that are to have an index or are the primary key. -/
lemma exists_of_mem_indexNames {columns : List Column} {name : String}
    (h : name ∈ Column.indexNames columns) : ∃ column ∈ columns, column.name = name := by
  have hchosen : ∀ column ∈ columns.filter (fun column => column.indexed || column.primaryKey),
      ∃ known ∈ columns, known.name = column.name :=
    fun column hcolumn => ⟨column, (List.mem_filter.mp hcolumn).1, rfl⟩
  exact forall_mem_collected (fun name => ∃ column ∈ columns, column.name = name)
    (List.forall_mem_nil _) hchosen name h

/-- The columns of properties have plain names. -/
lemma isPlainName_of_mem_columns {column : Column} (h : column ∈ properties.columns) :
    isPlainName column.name = true := by
  obtain ⟨property, hproperty, rfl⟩ := List.mem_map.mp h
  exact properties.names_valid property hproperty

/-! ## Statements -/

/-- The statements that a migration of a table to properties may send. -/
inductive Addressed (options : MigrationOptions) (table : String) (properties : PropertySet) :
    MigrationStatement → Prop
  /-- A table of any name is looked for. -/
  | findTable (name : String) : Addressed options table properties (.findTable name)
  /-- The columns of the table are looked up. -/
  | tableInfo : Addressed options table properties (.tableInfo table)
  /-- The indexes of the table are looked up. -/
  | indexList : Addressed options table properties (.indexList table)
  /-- The columns of an index are looked up, whatever its name is. -/
  | indexInfo (index : String) : Addressed options table properties (.indexInfo index)
  /-- The rows of the table are read. -/
  | readAll : Addressed options table properties (.readAll table)
  /-- The table is created, or its shadow. -/
  | createTable {name : String} (h : name = table ∨ name = options.shadowName table) :
    Addressed options table properties (.createTable ⟨name, properties.columns⟩)
  /-- A column is added to the table. -/
  | addColumn {column : Column} (h : column ∈ properties.columns) :
    Addressed options table properties (.addColumn table column)
  /-- Rows of the table are copied into its shadow. -/
  | copyRows (present : List String) (limit offset : Nat) : Addressed options table properties
    (.copyRows (.ofProperties table (options.shadowName table) properties present) limit offset)
  /-- The table is dropped, or its shadow. -/
  | dropTable {name : String} (h : name = table ∨ name = options.shadowName table) :
    Addressed options table properties (.dropTable name)
  /-- The shadow takes the name of the table. -/
  | renameTable : Addressed options table properties (.renameTable (options.shadowName table) table)
  /-- An index that the properties ask for is created. -/
  | createIndex {column : String} (h : column ∈ properties.indexNames) :
    Addressed options table properties (.createIndex table column)

/-- Looking at the table is allowed. -/
lemma addressed_allowsLooking (options : MigrationOptions) (table : String)
    (properties : PropertySet) : AllowsLooking (Addressed options table properties) table :=
  ⟨.findTable table, .tableInfo, .indexList, .indexInfo⟩

/-- A program that only sends such statements. -/
abbrev KeepsTo (options : MigrationOptions) (table : String) (properties : PropertySet) {α : Type}
    (program : Migrating α) : Prop :=
  program.Ensures (.ofStatements (Addressed options table properties)) (fun _ _ => True) ()

/-- Clearing up is about the table and its shadow. -/
lemma clearUp_addressed : KeepsTo options table properties (clearUp options table) := by
  unfold clearUp
  refine (hasTable_sends (.findTable _)).bind (fun present _ _ => ?_) fun _ _ _ => trivial
  cases present with
  | false => trivial
  | true =>
    refine (hasTable_sends (.findTable _)).bind (fun present _ _ => ?_) fun _ _ _ => trivial
    cases present with
    | false => exact ⟨.renameTable, fun _ _ _ => trivial⟩
    | true => exact ⟨.dropTable (.inr rfl), fun _ _ _ => trivial⟩

/-! ## Plans -/

/-- The steps that create the indexes of properties. -/
lemma carryOut_indexSteps_addressed {copied : Nat} (hname : desired.name = table)
    (hcolumns : desired.columns = properties.columns) :
    KeepsTo options table properties
      (carryOut options properties desired live copied (Plan.indexSteps options desired)) := by
  refine carryOut_sends fun step hstep => ?_
  unfold Plan.indexSteps at hstep
  split at hstep
  · obtain ⟨column, hcolumn, rfl⟩ := List.mem_map.mp hstep
    rw [Table.indexNames, hcolumns] at hcolumn
    rw [hname]
    exact ⟨_, rfl, .createIndex hcolumn⟩
  · exact absurd hstep List.not_mem_nil

/-- A rebuild goes through the shadow of the table. -/
lemma carryOut_rebuildSteps_addressed {copied : Nat} (hname : desired.name = table)
    (hcolumns : desired.columns = properties.columns) :
    KeepsTo options table properties (carryOut options properties desired live copied
      (Plan.rebuildSteps desired (options.shadowName desired.name))) := by
  subst hname
  have hcreate : Addressed options desired.name properties
      (.createTable (desired.withName (options.shadowName desired.name))) := by
    rw [Table.withName, hcolumns]
    exact .createTable (.inr rfl)
  have hlast : ∀ step ∈ [PlanStep.dropTable desired.name,
      .renameTable (options.shadowName desired.name) desired.name], ∃ statement,
      step.statement? = some statement ∧ Addressed options desired.name properties statement :=
    List.forall_mem_cons.mpr ⟨⟨_, rfl, .dropTable (.inl rfl)⟩,
      List.forall_mem_singleton.mpr ⟨_, rfl, .renameTable⟩⟩
  rw [Plan.rebuildSteps, carryOut_cons _ _ rfl]
  refine ⟨hcreate, fun _ _ _ => ?_⟩
  rw [carryOut_copyRows]
  have hcopy : KeepsTo options desired.name properties
      (copyTable options desired.name (options.shadowName desired.name) properties desired live) :=
    copyTable_sends .readAll fun limit offset => .copyRows _ limit offset
  exact hcopy.bind (fun _ _ _ => carryOut_sends hlast) fun _ _ _ => trivial

/-- A plan ends with the creation of indexes, and what comes before is about the table and its
shadow. -/
lemma exists_planSteps (found : Option (List ReportedColumn)) (hname : desired.name = table)
    (hcolumns : desired.columns = properties.columns) :
    ∃ steps, (Plan.make options desired found).steps = steps ++ Plan.indexSteps options desired ∧
      ∀ copied, KeepsTo options table properties
        (carryOut options properties desired (found.getD []) copied steps) := by
  cases found with
  | none =>
    refine ⟨[.createTable desired], rfl, fun copied => carryOut_sends ?_⟩
    obtain ⟨name, columns⟩ := desired
    subst hname hcolumns
    exact List.forall_mem_singleton.mpr ⟨_, rfl, .createTable (.inl rfl)⟩
  | some live =>
    unfold Plan.make
    simp only
    split
    · exact ⟨_, rfl, fun copied => carryOut_rebuildSteps_addressed hname hcolumns⟩
    · split
      · refine ⟨_, rfl, fun copied => carryOut_sends fun step hstep => ?_⟩
        obtain ⟨column, hcolumn, rfl⟩ := List.mem_map.mp hstep
        have hdeclared : column ∈ properties.columns := hcolumns ▸ (List.mem_filter.mp hcolumn).1
        rw [hname]
        exact ⟨_, rfl, .addColumn hdeclared⟩
      · exact ⟨[], rfl, fun copied => trivial⟩

/-! ## Whole programs -/

/-- A migration of a table to properties keeps to the statements that are about them. -/
lemma migrate_addressed (options : MigrationOptions) (table : String) (properties : PropertySet) :
    KeepsTo options table properties (migrate options table properties) := by
  unfold migrate
  cases hdesired : desiredTable table properties with
  | error reason => trivial
  | ok desired =>
    obtain ⟨hname, hcolumns⟩ := eq_of_desiredTable hdesired
    simp only [liftM_eq_done, done_ok_bind]
    refine clearUp_addressed.bind (fun _ _ _ => ?_) fun _ _ _ => trivial
    refine (currentColumns_sends (addressed_allowsLooking options table properties)).bind
      (fun found _ _ => ?_) fun _ _ _ => trivial
    obtain ⟨steps, hsteps, hkeeps⟩ := exists_planSteps found hname hcolumns
    rw [hsteps, carryOut_append, bind_bind]
    refine (hkeeps 0).bind (fun copied _ _ => ?_) fun _ _ _ => trivial
    refine (carryOut_indexSteps_addressed hname hcolumns).bind
      (fun _ _ _ => ?_) fun _ _ _ => trivial
    trivial

end DocTables.Migration
