import DocTables.Migration.Basic
import DocTables.Proofs.Storage.Ensures

/-!
# The steps of a migration

What the parts of a migration are as programs: what is desired, the steps of a plan one by one, and
the statements that each part may send.  Looking at a table only sends statements that read, and
every step but the copying of rows sends its own statement and goes on.
-/

namespace DocTables.Migration

open Dialogue

variable {options : MigrationOptions} {table : String} {properties : PropertySet} {desired : Table}
  {live : List ReportedColumn}

/-! ## Names -/

/-- A shadow has another name than its table. -/
lemma shadowName_ne (hsuffix : options.shadowSuffix ≠ "") : options.shadowName table ≠ table := by
  intro h
  have hlength := congrArg String.length h
  rw [MigrationOptions.shadowName, String.length_append] at hlength
  have hempty : options.shadowSuffix.length = 0 := by omega
  exact hsuffix (String.length_eq_zero_iff.mp hempty)

/-- What is desired is a table of the name with the columns of the properties. -/
lemma eq_of_desiredTable (h : desiredTable table properties = .ok desired) :
    desired.name = table ∧ desired.columns = properties.columns := by
  unfold desiredTable Table.ofProperties at h
  split at h
  · cases h
  · split at h
    · rename_i result heq
      split at heq
      · cases h
        cases heq
        exact ⟨rfl, rfl⟩
      · cases heq
    · cases h

/-- What is desired has a plain name and a column. -/
lemma plain_of_desiredTable (h : desiredTable table properties = .ok desired) :
    isPlainName desired.name = true ∧ desired.columns ≠ [] := by
  obtain ⟨hname, hcolumns⟩ := eq_of_desiredTable h
  unfold desiredTable Table.ofProperties at h
  split at h
  · cases h
  · rename_i hempty
    refine ⟨?_, fun hnil => hempty ?_⟩
    · by_cases hplain : isPlainName table = true
      · rw [hname]
        exact hplain
      · simp [hplain] at h
    · rw [hcolumns, PropertySet.columns, List.map_eq_nil_iff] at hnil
      rw [PropertySet.isEmpty, hnil, List.isEmpty_nil]

/-- The steps that create indexes, as a list of columns. -/
lemma indexSteps_eq (options : MigrationOptions) (desired : Table) :
    ∃ columns : List String,
      Plan.indexSteps options desired = columns.map (.createIndex desired.name) := by
  unfold Plan.indexSteps
  split
  · exact ⟨desired.indexNames, rfl⟩
  · exact ⟨[], rfl⟩

/-! ## Steps -/

/-- A step with a statement of its own sends it. -/
lemma carryOut_cons {step : PlanStep} {statement : MigrationStatement} (rest : List PlanStep)
    (copied : Nat) (hstatement : step.statement? = some statement) :
    carryOut options properties desired live copied (step :: rest) =
      .ask statement fun _ => carryOut options properties desired live copied rest := by
  cases step with
  | copyRows source target => cases hstatement
  | _ =>
    cases hstatement
    rfl

/-- A step that copies rows copies the table. -/
lemma carryOut_copyRows (source target : String) (rest : List PlanStep) (copied : Nat) :
    carryOut options properties desired live copied (.copyRows source target :: rest) =
      copyTable options source target properties desired live >>= fun copied =>
        carryOut options properties desired live copied rest := rfl

/-! ## Looking at a table -/

/-- A table is there if the query for it finds a row. -/
lemma hasTable_bind {α : Type} (name : String) (next : Bool → Migrating α) :
    hasTable name >>= next = .ask (.findTable name) fun reply => next (!reply.toRows.isEmpty) := rfl

/-- The columns of a table that cannot be named are not asked for. -/
lemma reportedColumns_of_not_plain (h : ¬ isPlainName table = true) :
    reportedColumns table = .done (.error (.schema (.invalidIdentifier table))) := by
  unfold reportedColumns
  simp only [h, Bool.not_false, if_true]
  rfl

/-- The columns of a table are asked for before its constraints. -/
lemma reportedColumns_of_plain (h : isPlainName table = true) :
    reportedColumns table = .ask (.tableInfo table) fun reply =>
      .done (ReportedColumn.ofTableInfoRows reply.toRows) >>= fun columns =>
        constrainedColumns table >>= fun unique =>
          .done (.ok (columns.map fun column =>
            { column with unique := column.name ∈ unique })) := by
  unfold reportedColumns
  simp only [h, Bool.not_true, Bool.false_eq_true, if_false, send_bind, liftM_eq_done, pure_eq_done]

/-- The statements by which a migration looks at a table are allowed: those that are about the
table, and those about indexes, whose names are what the storage reports. -/
structure AllowsLooking (allowed : MigrationStatement → Prop) (table : String) : Prop where
  findTable : allowed (.findTable table)
  tableInfo : allowed (.tableInfo table)
  indexList : allowed (.indexList table)
  indexInfo : ∀ index, allowed (.indexInfo index)

variable {allowed : MigrationStatement → Prop}

lemma hasTable_sends {name : String} (h : allowed (.findTable name)) :
    (hasTable name).Ensures (.ofStatements allowed) (fun _ _ => True) () :=
  ⟨h, fun _ _ _ => trivial⟩

lemma columnsOfIndexes_sends (h : ∀ index, allowed (.indexInfo index)) (indexes : List String) :
    (columnsOfIndexes indexes).Ensures (.ofStatements allowed) (fun _ _ => True) () := by
  induction indexes with
  | nil => trivial
  | cons index rest ih =>
    exact ⟨h index, fun _ _ _ => ih.bind (fun _ _ _ => trivial) fun _ _ _ => trivial⟩

/-- Looking up the columns of a table only looks at the table. -/
lemma reportedColumns_sends (h : AllowsLooking allowed table) :
    (reportedColumns table).Ensures (.ofStatements allowed) (fun _ _ => True) () := by
  by_cases hplain : isPlainName table = true
  · rw [reportedColumns_of_plain hplain]
    refine ⟨h.tableInfo, fun reply _ _ => ?_⟩
    cases hcolumns : ReportedColumn.ofTableInfoRows reply.toRows with
    | error reason =>
      simp only [hcolumns, done_error_bind]
      trivial
    | ok columns =>
      simp only [hcolumns, done_ok_bind]
      refine ⟨h.indexList, fun _ _ _ => ?_⟩
      exact (columnsOfIndexes_sends h.indexInfo _).bind (fun _ _ _ => trivial) fun _ _ _ => trivial
  · rw [reportedColumns_of_not_plain hplain]
    trivial

/-- Looking at a table does so too. -/
lemma currentColumns_sends (h : AllowsLooking allowed table) :
    (currentColumns table).Ensures (.ofStatements allowed) (fun _ _ => True) () := by
  unfold currentColumns
  refine (hasTable_sends h.findTable).bind (fun present _ _ => ?_) fun _ _ _ => trivial
  cases present with
  | false => trivial
  | true =>
    refine (reportedColumns_sends h).bind (fun columns _ _ => ?_) fun _ _ _ => trivial
    cases columns <;> trivial

/-- The world in which only reading statements are asked for. -/
def readings : World MigrationStatement Unit :=
  .ofStatements fun statement => statement.isRead = true

/-- Looking at a table reads. -/
lemma currentColumns_reads (table : String) :
    (currentColumns table).Ensures readings (fun _ _ => True) () :=
  currentColumns_sends ⟨rfl, rfl, rfl, fun _ => rfl⟩

/-! ## Copying a table -/

/-- What the check of the primary key says of rows.  Without a primary key there is nothing to
check. -/
def keyCheck (desired : Table) (rows : List Row) : Except MigrationError Unit :=
  match desired.primaryKey? with
  | some key => checkKeys key.name [] rows
  | none => .ok ()

/-- The rows of a table are read and checked before they are copied, in as many batches as they
need. -/
lemma copyTable_eq (source target : String) :
    copyTable options source target properties desired live =
      .ask (.readAll source) fun reply =>
        .done (keyCheck desired (reply.toRows.map (reshape properties))) >>= fun _ =>
          copyBatches (.ofProperties source target properties (live.map ReportedColumn.name))
            (max options.batchSize 1)
            (batchOffsets (max options.batchSize 1) reply.toRows.length) := by
  unfold copyTable keyCheck
  simp only [send_bind, List.length_map]
  cases desired.primaryKey? <;> rfl

/-- Batches are sent one after the other, and never refused. -/
lemma copyBatches_sends {copy : RowCopy} (h : ∀ limit offset, allowed (.copyRows copy limit offset))
    (size : Nat) (offsets : List Nat) :
    (copyBatches copy size offsets).Ensures (.ofStatements allowed)
      (fun result _ => ∃ copied, result = .ok copied) () := by
  induction offsets with
  | nil => exact ⟨0, rfl⟩
  | cons offset rest ih =>
    refine ⟨h size offset, fun reply _ _ => ih.bind (fun copied _ _ => ⟨_, rfl⟩) ?_⟩
    rintro reason _ ⟨copied, hcopied⟩
    cases hcopied

/-- Copying the rows of a table reads them and copies them in batches. -/
lemma copyTable_sends {source target : String} (hread : allowed (.readAll source))
    (hcopy : ∀ limit offset, allowed (.copyRows
      (.ofProperties source target properties (live.map ReportedColumn.name)) limit offset)) :
    (copyTable options source target properties desired live).Ensures (.ofStatements allowed)
      (fun _ _ => True) () := by
  rw [copyTable_eq]
  refine ⟨hread, fun reply _ _ => ?_⟩
  dsimp only
  cases keyCheck desired (reply.toRows.map (reshape properties)) with
  | ok _ => exact (copyBatches_sends hcopy _ _).mono fun _ _ _ => trivial
  | error reason => trivial

/-! ## Carrying out steps -/

/-- Steps that each send a statement of their own only send these. -/
lemma carryOut_sends {steps : List PlanStep} {copied : Nat}
    (hsteps : ∀ step ∈ steps, ∃ statement, step.statement? = some statement ∧ allowed statement) :
    (carryOut options properties desired live copied steps).Ensures (.ofStatements allowed)
      (fun _ _ => True) () := by
  induction steps generalizing copied with
  | nil => trivial
  | cons step rest ih =>
    obtain ⟨⟨statement, hstatement, hallowed⟩, hrest⟩ := List.forall_mem_cons.mp hsteps
    rw [carryOut_cons rest copied hstatement]
    exact ⟨hallowed, fun _ _ _ => ih hrest⟩

/-- Steps are carried out in two parts. -/
lemma carryOut_append (first second : List PlanStep) (copied : Nat) :
    carryOut options properties desired live copied (first ++ second) =
      carryOut options properties desired live copied first >>= fun copied =>
        carryOut options properties desired live copied second := by
  induction first generalizing copied with
  | nil => rfl
  | cons step rest ih =>
    cases step with
    | copyRows source target =>
      rw [List.cons_append, carryOut_copyRows, carryOut_copyRows, bind_bind]
      exact congrArg _ (funext ih)
    | _ => exact congrArg (Dialogue.ask _) (funext fun _ => ih copied)

end DocTables.Migration
