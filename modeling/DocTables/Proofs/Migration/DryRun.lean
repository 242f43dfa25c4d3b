import DocTables.Proofs.Migration.CrashSafety
import DocTables.Proofs.Result
import DocTables.Proofs.Storage.Runs
import Mathlib.Data.List.TakeWhile

/-!
# A preview tells what a migration does

A preview looks at a table and makes a plan; a migration clears up, looks again, makes a plan of its
own and carries it out.  When the table is there, or its shadow is not, what clearing up does is at
most to drop the shadow; if that has no effect on what is seen of the table, both look at the same
columns (`run_currentColumns_of_drop`) and so have the same plan.  What is written for a plan is the
text of each step in order, where the texts of the batches stand for the step that copies rows
(`carryOut_plan_completes`).
-/

namespace DocTables.Migration

open Dialogue

variable {τ : Type} {storage : Storage MigrationStatement τ} {state after cleared : τ}
  {options : MigrationOptions} {table : String} {properties : PropertySet} {desired : Table}
  {live : List ReportedColumn} {sent : List (Exchange MigrationStatement)}

/-! ## Texts of statements -/

/-- The first word of a text. -/
def firstWord (sql : String) : List Char := sql.toList.takeWhile (· != ' ')

/-- Whether a statement only looks, as far as its first word tells. -/
def looks (sql : String) : Bool :=
  firstWord sql == "SELECT".toList || firstWord sql == "PRAGMA".toList

/-- The text begins with a whole word, which tells that the statement only looks or that it does
not. -/
abbrev Opens (sql : String) (read : Bool) : Prop := ' ' ∈ sql.toList ∧ looks sql = read

/-- What comes after the first word has no influence on it. -/
lemma Opens.append {first : String} {read : Bool} (h : Opens first read) (rest : String) :
    Opens (first ++ rest) read := by
  obtain ⟨hblank, hread⟩ := h
  have hshorter : (first.toList.takeWhile (· != ' ')).length ≠ first.toList.length := by
    intro hlength
    have hself := (List.takeWhile_prefix (· != ' ')).eq_of_length hlength
    exact absurd (List.takeWhile_eq_self_iff.mp hself ' ' hblank) (by decide)
  have hword : firstWord (first ++ rest) = firstWord first := by
    rw [firstWord, String.toList_append, List.takeWhile_append, if_neg hshorter, firstWord]
  refine ⟨?_, ?_⟩
  · rw [String.toList_append]
    exact List.mem_append_left _ hblank
  · rw [looks, hword]
    exact hread

/-- The copy of rows opens as an insertion. -/
lemma opens_copy (copy : RowCopy) : Opens copy.text false := by
  unfold RowCopy.text
  repeat' with_reducible apply Opens.append
  decide +kernel

/-- The first words of statements tell those that only look from the others. -/
lemma looks_sql (statement : MigrationStatement) : looks statement.sql = statement.isRead := by
  suffices hopens : Opens statement.sql statement.isRead from hopens.2
  -- all texts are put together from left to right, and begin with a word followed by a blank
  cases statement with
  | copyRows copy limit offset =>
    exact ((((opens_copy copy).append _).append _).append _).append _
  | _ =>
    refine Opens.append ?_ _
    repeat' with_reducible apply Opens.append
    simp only [MigrationStatement.isRead]
    decide +kernel

/-- The texts in a record of the statements that do not only look. -/
def writes (sent : List (Exchange MigrationStatement)) : List String :=
  (sent.map fun exchange => exchange.1.sql).filter fun sql => !looks sql

/-- They are the texts of the statements that are not reads. -/
lemma writes_eq_map (sent : List (Exchange MigrationStatement)) :
    writes sent = (sent.filter fun exchange => !exchange.1.isRead).map fun exchange =>
      exchange.1.sql := by
  rw [writes, List.filter_map]
  refine congrArg (List.map _) (List.filter_congr fun exchange _ => ?_)
  rw [Function.comp_apply, looks_sql]

@[simp] lemma writes_nil : writes [] = [] := rfl

@[simp] lemma writes_append (first second : List (Exchange MigrationStatement)) :
    writes (first ++ second) = writes first ++ writes second := by
  rw [writes, List.map_append, List.filter_append, writes, writes]

/-- What only looks is not a write. -/
lemma writes_cons_of_read {statement : MigrationStatement} (answer : Except StorageError Reply)
    (rest : List (Exchange MigrationStatement)) (h : statement.isRead = true) :
    writes ((statement, answer) :: rest) = writes rest := by
  rw [writes_eq_map, List.filter_cons, h, writes_eq_map]
  rfl

/-- What does not only look is a write. -/
lemma writes_cons_of_write {statement : MigrationStatement} (answer : Except StorageError Reply)
    (rest : List (Exchange MigrationStatement)) (h : statement.isRead = false) :
    writes ((statement, answer) :: rest) = statement.sql :: writes rest := by
  rw [writes_eq_map, List.filter_cons, h, writes_eq_map]
  rfl

/-- A record of statements that look has no writes. -/
lemma writes_eq_nil (h : ∀ exchange ∈ sent, exchange.1.isRead = true) : writes sent = [] := by
  rw [writes_eq_map, List.map_eq_nil_iff, List.filter_eq_nil_iff]
  intro exchange hexchange
  rw [h exchange hexchange]
  exact Bool.false_ne_true

/-! ## Looking -/

/-- Statements that look leave the storage as it is. -/
def LooksOnly (storage : Storage MigrationStatement τ) : Prop :=
  ∀ statement state, statement.isRead = true → (storage statement state).2 = state

/-- Whether a table is found. -/
def finds (storage : Storage MigrationStatement τ) (state : τ) (name : String) : Bool :=
  match (storage (.findTable name) state).1 with
  | .ok reply => !reply.toRows.isEmpty
  | .error _ => false

/-- The statements that look at a table as it is in a state, at its rows, its columns and its
indexes. -/
inductive LooksAt (storage : Storage MigrationStatement τ) (state : τ) (table : String) :
    MigrationStatement → Prop
  | findTable : LooksAt storage state table (.findTable table)
  | tableInfo : LooksAt storage state table (.tableInfo table)
  | indexList : LooksAt storage state table (.indexList table)
  | indexInfo {reply : Reply} {row : Row} {index : String}
    (hreply : (storage (.indexList table) state).1 = .ok reply) (hrow : row ∈ reply.toRows)
    (hname : row.get? "name" = some (.string index)) :
    LooksAt storage state table (.indexInfo index)
  | readAll : LooksAt storage state table (.readAll table)

/-- When a table is dropped in a state, what is seen of another one stays the same. -/
def DropSpares (storage : Storage MigrationStatement τ) (state : τ)
    (dropped other : String) : Prop :=
  ∀ reply after, storage (.dropTable dropped) state = (.ok reply, after) →
    ∀ statement, LooksAt storage state other statement →
      (storage statement after).1 = (storage statement state).1

lemma LooksAt.isRead {statement : MigrationStatement} (h : LooksAt storage state table statement) :
    statement.isRead = true := by
  cases h <;> rfl

/-- The name of an index that stands for a constraint is listed. -/
lemma exists_row_of_constraintIndexNames {rows : List Row} {index : String}
    (h : index ∈ ReportedColumn.constraintIndexNames rows) :
    ∃ row ∈ rows, row.get? "name" = some (.string index) := by
  obtain ⟨row, hrow, hindex⟩ := List.mem_filterMap.mp h
  refine ⟨row, hrow, ?_⟩
  unfold ReportedColumn.constraintIndexName? at hindex
  split at hindex
  · obtain ⟨value, hvalue, hstring⟩ := Option.bind_eq_some_iff.mp hindex
    rw [hvalue]
    cases value with
    | string name => rw [Option.some.inj hstring]
    | _ => cases hstring
  · cases hindex

/-- A reply to a statement that looks comes from the state that is left. -/
lemma LooksOnly.after_eq (hlooks : LooksOnly storage) {statement : MigrationStatement}
    {reply : Reply} (hread : statement.isRead = true)
    (hanswer : storage statement state = (.ok reply, after)) :
    after = state := by
  rw [← hlooks statement state hread, hanswer]

/-- The indexes of a table are looked up in the state in which they were listed. -/
lemma columnsOfIndexes_looksAt (hlooks : LooksOnly storage) {indexes : List String}
    (h : ∀ index ∈ indexes, LooksAt storage state table (.indexInfo index)) :
    (columnsOfIndexes indexes).Ensures (.ofRuns storage (LooksAt storage state table))
      (fun _ after => after = state) state := by
  induction indexes with
  | nil => rfl
  | cons index rest ih =>
    obtain ⟨hfirst, hrest⟩ := List.forall_mem_cons.mp h
    refine ⟨hfirst, fun reply after hanswer => ?_⟩
    obtain rfl := hlooks.after_eq rfl hanswer
    refine (ih hrest).bind ?_ ?_
    · rintro columns after' rfl
      rfl
    · rintro reason after' rfl
      rfl

/-- The report on a table comes from looking at it. -/
lemma reportedColumns_looksAt (hlooks : LooksOnly storage) :
    (reportedColumns table).Ensures (.ofRuns storage (LooksAt storage state table))
      (fun _ after => after = state) state := by
  by_cases hplain : isPlainName table = true
  · rw [reportedColumns_of_plain hplain]
    refine ⟨.tableInfo, fun reply after hanswer => ?_⟩
    obtain rfl := hlooks.after_eq rfl hanswer
    cases hcolumns : ReportedColumn.ofTableInfoRows reply.toRows with
    | error reason =>
      simp only [hcolumns, done_error_bind]
      rfl
    | ok columns =>
      simp only [hcolumns, done_ok_bind]
      refine ⟨.indexList, fun reply' after' hanswer' => ?_⟩
      obtain rfl := hlooks.after_eq rfl hanswer'
      refine (columnsOfIndexes_looksAt hlooks fun index hindex => ?_).bind ?_ ?_
      · obtain ⟨row, hrow, hname⟩ := exists_row_of_constraintIndexNames hindex
        exact .indexInfo (by rw [hanswer']) hrow hname
      · rintro unique last rfl
        rfl
      · rintro reason last rfl
        rfl
  · rw [reportedColumns_of_not_plain hplain]
    rfl

/-- Looking up the columns of a table is looking at it. -/
lemma currentColumns_looksAt (hlooks : LooksOnly storage) :
    (currentColumns table).Ensures (.ofRuns storage (LooksAt storage state table))
      (fun _ after => after = state) state := by
  unfold currentColumns
  rw [hasTable_bind]
  refine ⟨.findTable, fun reply after hanswer => ?_⟩
  obtain rfl := hlooks.after_eq rfl hanswer
  cases hrows : reply.toRows.isEmpty with
  | true =>
    simp only [hrows, Bool.not_true, Bool.false_eq_true, if_false]
    rfl
  | false =>
    simp only [hrows, Bool.not_false, if_true]
    refine (reportedColumns_looksAt hlooks).bind ?_ ?_
    · rintro columns after' rfl
      cases columns <;> rfl
    · rintro reason after' rfl
      rfl

/-- Dropping a table that has no effect on another one leaves the columns of that one as they were
found. -/
lemma run_currentColumns_of_drop {dropped : String} {reply : Reply} (hlooks : LooksOnly storage)
    (hspares : DropSpares storage state dropped table)
    (hdrop : storage (.dropTable dropped) state = (.ok reply, cleared)) :
    ((currentColumns table).run storage cleared).1 =
      ((currentColumns table).run storage state).1 := by
  refine run_eq_of_alike (currentColumns_looksAt hlooks) (fun statement h => ?_)
    fun statement h => ?_
  · exact ⟨hlooks statement state h.isRead, hlooks statement cleared h.isRead⟩
  · exact hspares reply cleared hdrop statement h

/-- Looking up the columns of a table writes nothing and leaves the storage as it is. -/
lemma currentColumns_completes (hlooks : LooksOnly storage) {found : Option (List ReportedColumn)}
    (h : Completes storage (currentColumns table) state found sent after) :
    after = state ∧ writes sent = [] := by
  obtain ⟨hafter, hsent⟩ := h.of_keeping (currentColumns_reads table) hlooks
  exact ⟨hafter, writes_eq_nil hsent⟩

/-! ## Clearing up -/

/-- Whether a table exists is whether it is found. -/
lemma hasTable_completes (hlooks : LooksOnly storage) {name : String} {present : Bool}
    (h : Completes storage (hasTable name) state present sent after) :
    present = finds storage state name ∧ after = state ∧ writes sent = [] := by
  obtain ⟨reply, reached, rest, hanswer, hdone, rfl⟩ := h.of_ask
  obtain ⟨hpresent, rfl, rfl⟩ := hdone.of_done
  refine ⟨?_, hlooks.after_eq rfl hanswer, writes_cons_of_read _ _ rfl⟩
  rw [finds, hanswer]
  exact (Except.ok.inj hpresent).symm

/-- Clearing up drops the shadow just if it is found, when the table is there too or the shadow is
not; otherwise it leaves the storage as it is. -/
lemma clearUp_completes (hlooks : LooksOnly storage)
    (hpresent : finds storage state table = true ∨
      finds storage state (options.shadowName table) = false)
    (h : Completes storage (clearUp options table) state () sent cleared) :
    (finds storage state (options.shadowName table) = true ∧
      writes sent = [(MigrationStatement.dropTable (options.shadowName table)).sql] ∧
      ∃ reply, storage (.dropTable (options.shadowName table)) state = (.ok reply, cleared)) ∨
    (finds storage state (options.shadowName table) = false ∧
      writes sent = [] ∧ cleared = state) := by
  obtain ⟨shadowed, reached, first, rest, hfirst, hrest, rfl⟩ := h.of_bind
  obtain ⟨rfl, rfl, hnone⟩ := hasTable_completes hlooks hfirst
  cases hshadow : finds storage reached (options.shadowName table) with
  | false =>
    simp only [hshadow, Bool.false_eq_true, if_false] at hrest
    obtain ⟨-, rfl, rfl⟩ := hrest.of_done
    exact .inr ⟨rfl, by rw [writes_append, hnone, writes_nil, List.append_nil], rfl⟩
  | true =>
    have htable : finds storage reached table = true := by
      rcases hpresent with htable | hmissing
      · exact htable
      · rw [hshadow] at hmissing
        cases hmissing
    simp only [hshadow, if_true] at hrest
    obtain ⟨there, reached', second, last, hsecond, hlast, rfl⟩ := hrest.of_bind
    obtain ⟨rfl, rfl, hnone'⟩ := hasTable_completes hlooks hsecond
    simp only [htable, if_true, discard_send] at hlast
    obtain ⟨reply, dropped, tail, hanswer, hdone, rfl⟩ := hlast.of_ask
    obtain ⟨-, rfl, rfl⟩ := hdone.of_done
    refine .inl ⟨rfl, ?_, reply, hanswer⟩
    rw [writes_append, writes_append, hnone, hnone']
    exact writes_cons_of_write _ _ rfl

/-! ## Carrying out a plan -/

/-- The texts of the batches that copy a number of rows. -/
def batchTexts (options : MigrationOptions) (copy : RowCopy) (count : Nat) : List String :=
  (batchOffsets (max options.batchSize 1) count).map fun offset =>
    (MigrationStatement.copyRows copy (max options.batchSize 1) offset).sql

/-- The texts that are written for a step: its own, or those of the batches if it copies rows. -/
def stepTexts (batches : List String) (step : PlanStep) : List String :=
  match step.sql? with
  | some sql => [sql]
  | none => batches

/-- A step with a statement of its own writes it. -/
lemma isRead_of_statement? {step : PlanStep} {statement : MigrationStatement}
    (h : step.statement? = some statement) : statement.isRead = false := by
  cases step with
  | copyRows source target => cases h
  | _ =>
    cases h
    rfl

/-- The first of the steps that are carried out is written first. -/
lemma carryOut_cons_completes {step : PlanStep} {statement : MigrationStatement}
    {rest : List PlanStep} {copied final : Nat} (batches : List String)
    (hstatement : step.statement? = some statement)
    (h : Completes storage (carryOut options properties desired live copied (step :: rest))
      state final sent after) :
    ∃ reached later,
      Completes storage (carryOut options properties desired live copied rest)
        reached final later after ∧
      (∀ exchange ∈ later, exchange ∈ sent) ∧
      writes sent = stepTexts batches step ++ writes later := by
  rw [carryOut_cons rest copied hstatement] at h
  obtain ⟨reply, reached, later, -, hlater, rfl⟩ := h.of_ask
  refine ⟨reached, later, hlater, fun exchange => List.mem_cons_of_mem _, ?_⟩
  rw [writes_cons_of_write _ _ (isRead_of_statement? hstatement), stepTexts,
    PlanStep.sql?, hstatement]
  rfl

/-- Steps with statements of their own are written in order. -/
lemma carryOut_completes {steps : List PlanStep} {copied final : Nat} (batches : List String)
    (hsteps : ∀ step ∈ steps, ∃ statement, step.statement? = some statement)
    (h : Completes storage (carryOut options properties desired live copied steps) state final sent
      after) :
    writes sent = steps.flatMap (stepTexts batches) := by
  induction steps generalizing state sent with
  | nil =>
    obtain ⟨-, rfl, -⟩ := h.of_done
    rfl
  | cons step rest ih =>
    obtain ⟨⟨statement, hstatement⟩, hrest⟩ := List.forall_mem_cons.mp hsteps
    obtain ⟨reached, later, hlater, -, hwrites⟩ := carryOut_cons_completes batches hstatement h
    rw [hwrites, ih hrest hlater, List.flatMap_cons]

/-- Each batch of a copy is written. -/
lemma copyBatches_completes {copy : RowCopy} {size copied : Nat} {offsets : List Nat}
    (h : Completes storage (copyBatches copy size offsets) state copied sent after) :
    writes sent =
      offsets.map fun offset => (MigrationStatement.copyRows copy size offset).sql := by
  have htexts : sent.map (fun exchange => exchange.1.sql) =
      (offsets.map (MigrationStatement.copyRows copy size)).map MigrationStatement.sql := by
    rw [← copyBatches_sent h, List.map_map]
    rfl
  rw [writes, htexts, List.map_map, List.filter_eq_self.mpr]
  · rfl
  · intro sql hsql
    obtain ⟨offset, -, rfl⟩ := List.mem_map.mp hsql
    rw [Function.comp_apply, looks_sql]
    rfl

/-- A copy of a table writes the batches for the rows that were read. -/
lemma copyTable_completes {source target : String} {copied : Nat}
    (h : Completes storage (copyTable options source target properties desired live)
      state copied sent after) :
    ∃ reply, (.readAll source, .ok reply) ∈ sent ∧
      writes sent = batchTexts options
        (.ofProperties source target properties (live.map ReportedColumn.name))
        reply.toRows.length := by
  rw [copyTable_eq] at h
  obtain ⟨reply, reached, later, -, hlater, rfl⟩ := h.of_ask
  refine ⟨reply, List.mem_cons_self, ?_⟩
  rw [writes_cons_of_read _ _ rfl]
  cases hcheck : keyCheck desired (reply.toRows.map (reshape properties)) with
  | ok _ =>
    rw [hcheck, done_ok_bind] at hlater
    exact copyBatches_completes hlater
  | error reason =>
    rw [hcheck, done_error_bind] at hlater
    cases hlater.of_done.1

/-- All steps but the copying of rows have statements of their own. -/
lemma exists_statement_of_indexSteps (options : MigrationOptions) (desired : Table) :
    ∀ step ∈ Plan.indexSteps options desired, ∃ statement, step.statement? = some statement := by
  obtain ⟨columns, hcolumns⟩ := indexSteps_eq options desired
  intro step hstep
  rw [hcolumns] at hstep
  obtain ⟨column, -, rfl⟩ := List.mem_map.mp hstep
  exact ⟨_, rfl⟩

/-- A rebuild writes its steps in order, and the batches for the rows that were read. -/
lemma carryOut_rebuild_completes {shadow : String} {copied final : Nat}
    (h : Completes storage (carryOut options properties desired live copied
        (Plan.rebuildSteps desired shadow ++ Plan.indexSteps options desired))
      state final sent after) :
    ∃ reply, (.readAll desired.name, .ok reply) ∈ sent ∧
      writes sent = (Plan.rebuildSteps desired shadow ++ Plan.indexSteps options desired).flatMap
        (stepTexts (batchTexts options
          (.ofProperties desired.name shadow properties (live.map ReportedColumn.name))
          reply.toRows.length)) := by
  simp only [Plan.rebuildSteps, List.cons_append, List.nil_append] at h ⊢
  obtain ⟨reached, later, hlater, hmem, hcreate⟩ := carryOut_cons_completes [] rfl h
  rw [carryOut_copyRows] at hlater
  obtain ⟨copied', reached', copies, rest, hcopies, hrest, rfl⟩ := hlater.of_bind
  obtain ⟨reply, hreply, hbatches⟩ := copyTable_completes hcopies
  refine ⟨reply, hmem _ (List.mem_append_left _ hreply), ?_⟩
  have hsteps : ∀ step ∈ .dropTable desired.name :: .renameTable shadow desired.name ::
      Plan.indexSteps options desired, ∃ statement, step.statement? = some statement :=
    List.forall_mem_cons.mpr ⟨⟨_, rfl⟩, List.forall_mem_cons.mpr ⟨⟨_, rfl⟩,
      exists_statement_of_indexSteps options desired⟩⟩
  rw [hcreate, writes_append, hbatches, carryOut_completes _ hsteps hrest]
  rfl

/-- Whatever columns were found, the plan for them is written step by step. -/
lemma carryOut_plan_completes {found : Option (List ReportedColumn)} {copied : Nat}
    (h : Completes storage (carryOut options properties desired (found.getD []) 0
      (Plan.make options desired found).steps) state copied sent after) :
    ∃ count, ((Plan.make options desired found).course = .rebuild →
        ∃ reply, (.readAll desired.name, .ok reply) ∈ sent ∧ reply.toRows.length = count) ∧
      writes sent = (Plan.make options desired found).steps.flatMap (stepTexts (batchTexts options
        (.ofProperties desired.name (options.shadowName desired.name) properties
          ((found.getD []).map ReportedColumn.name)) count)) := by
  have hindexes := exists_statement_of_indexSteps options desired
  cases found with
  | none =>
    refine ⟨0, fun hcourse => (by cases hcourse), ?_⟩
    exact carryOut_completes _ (List.forall_mem_cons.mpr ⟨⟨_, rfl⟩, hindexes⟩) h
  | some live =>
    simp only [Plan.make, Option.getD_some] at h ⊢
    split at h
    · rename_i hreasons
      rw [if_pos hreasons]
      obtain ⟨reply, hreply, hwrites⟩ := carryOut_rebuild_completes h
      exact ⟨_, fun _ => ⟨reply, hreply, rfl⟩, hwrites⟩
    · rename_i hreasons
      rw [if_neg hreasons]
      split at h
      · rename_i hadded
        rw [if_pos hadded]
        refine ⟨0, fun hcourse => (by cases hcourse), carryOut_completes _ (fun step hstep => ?_) h⟩
        rcases List.mem_append.mp hstep with hadd | hindex
        · obtain ⟨column, -, rfl⟩ := List.mem_map.mp hadd
          exact ⟨_, rfl⟩
        · exact hindexes step hindex
      · rename_i hadded
        rw [if_neg hadded]
        exact ⟨0, fun hcourse => (by cases hcourse), carryOut_completes _ hindexes h⟩

/-! ## Previews -/

/-- A preview looks at the table. -/
lemma preview_looksAt (hlooks : LooksOnly storage) :
    (preview options table properties).Ensures (.ofRuns storage (LooksAt storage state table))
      (fun _ after => after = state) state := by
  unfold preview
  cases desiredTable table properties with
  | error reason => rfl
  | ok desired =>
    simp only [liftM_eq_done, done_ok_bind]
    refine (currentColumns_looksAt hlooks).bind ?_ ?_
    · rintro live after rfl
      rfl
    · rintro reason after rfl
      rfl

/-- A preview shows the plan for the columns that are found. -/
lemma preview_completes (hlooks : LooksOnly storage) {plan : Plan}
    (h : Completes storage (preview options table properties) state plan sent after) :
    ∃ desired found looking, desiredTable table properties = .ok desired ∧
      Completes storage (currentColumns table) state found looking state ∧
      plan = .make options desired found := by
  unfold preview at h
  cases hdesired : desiredTable table properties with
  | error reason =>
    simp only [hdesired, liftM_eq_done, done_error_bind] at h
    cases h.of_done.1
  | ok desired =>
    simp only [hdesired, liftM_eq_done, done_ok_bind] at h
    obtain ⟨found, reached, looking, _, hfound, hplan, -⟩ := h.of_bind
    obtain ⟨rfl, -⟩ := currentColumns_completes hlooks hfound
    obtain ⟨hplan, -, -⟩ := hplan.of_done
    exact ⟨desired, found, looking, rfl, hfound, (Except.ok.inj hplan).symm⟩

/-- A migration clears up and carries out the plan for the columns that are found then. -/
lemma migrate_completes (hlooks : LooksOnly storage) {change : Migration.Change}
    (h : Completes storage (migrate options table properties) state change sent after) :
    ∃ desired cleared found copied clearing looking carrying,
      desiredTable table properties = .ok desired ∧
      Completes storage (clearUp options table) state () clearing cleared ∧
      Completes storage (currentColumns table) cleared found looking cleared ∧
      Completes storage (carryOut options properties desired (found.getD []) 0
        (Plan.make options desired found).steps) cleared copied carrying after ∧
      change = changeOf (.make options desired found) copied ∧
      sent = clearing ++ looking ++ carrying := by
  unfold migrate at h
  cases hdesired : desiredTable table properties with
  | error reason =>
    simp only [hdesired, liftM_eq_done, done_error_bind] at h
    cases h.of_done.1
  | ok desired =>
    simp only [hdesired, liftM_eq_done, done_ok_bind] at h
    obtain ⟨_, cleared, clearing, rest, hclearing, hrest, rfl⟩ := h.of_bind
    obtain ⟨found, reached, looking, last, hfound, hlast, rfl⟩ := hrest.of_bind
    obtain ⟨rfl, -⟩ := currentColumns_completes hlooks hfound
    obtain ⟨copied, reached', carrying, nothing, hcarrying, hdone, rfl⟩ := hlast.of_bind
    obtain ⟨hchange, rfl, rfl⟩ := hdone.of_done
    refine ⟨desired, _, found, copied, clearing, looking, carrying, rfl, hclearing,
      hfound, hcarrying, (Except.ok.inj hchange).symm, ?_⟩
    rw [List.append_nil, List.append_assoc]

/-- What a change does to a table as a whole. -/
def Change.course : Change → PlanCourse
  | .created => .create
  | .altered _ => .alter
  | .rebuilt _ => .rebuild
  | .unchanged => .unchanged

/-- A change is of the kind that was planned, and has added the columns that were to be added. -/
lemma course_changeOf (plan : Plan) (copied : Nat) :
    (changeOf plan copied).course = plan.course ∧
      ∀ added, changeOf plan copied = .altered added → added = plan.added := by
  unfold changeOf
  cases plan.course with
  | alter => exact ⟨rfl, fun added hadded => (Change.altered.inj hadded).symm⟩
  | _ => exact ⟨rfl, fun added hadded => by cases hadded⟩

/-- A preview only looks.  The migration after it, when it is not refused and the storage does not
fail, is of the kind that was shown and writes just the steps that were shown, in order, with the
batches for the rows of the table in place of the step that copies them; before that it drops the
shadow of the table if there is one.  It is assumed that looking leaves the storage as it is, that
dropping the shadow has no effect on what is seen of the table, and that the table is there or its
shadow is not. -/
theorem migration_follows_preview (hlooks : LooksOnly storage)
    (hspares : DropSpares storage state (options.shadowName table) table)
    (hpresent : finds storage state table = true ∨
      finds storage state (options.shadowName table) = false) :
    (∀ exchange ∈ (preview options table properties).record storage state,
      looks exchange.1.sql = true) ∧
    ∀ plan change reached after,
      (preview options table properties).run storage state = (.ok plan, reached) →
      (migrate options table properties).run storage state = (.ok change, after) →
      (change.course = plan.course ∧ ∀ added, change = .altered added → added = plan.added) ∧
      ∃ found count, (currentColumns table).run storage state = (.ok found, state) ∧
        (plan.course = .rebuild → ∃ reply,
          (.readAll table, .ok reply) ∈ (migrate options table properties).record storage state ∧
            reply.toRows.length = count) ∧
        writes ((migrate options table properties).record storage state) =
          (if finds storage state (options.shadowName table) then
            ["DROP TABLE " ++ options.shadowName table] else []) ++
          plan.steps.flatMap (stepTexts (batchTexts options
            (.ofProperties table (options.shadowName table) properties
              ((found.getD []).map ReportedColumn.name)) count)) := by
  refine ⟨fun exchange hexchange => ?_, fun plan change reached after hpreview hmigrate => ?_⟩
  · rw [looks_sql]
    exact ((preview_looksAt hlooks).allowed_of_record exchange hexchange).isRead
  have hdone := completes_of_run hmigrate
  generalize (migrate options table properties).record storage state = sent at hdone
  obtain ⟨desired, found, looking, hdesired, hfound, rfl⟩ :=
    preview_completes hlooks (completes_of_run hpreview)
  obtain ⟨desired', cleared, found', copied, clearing, looking', carrying, hdesired',
    hclearing, hfound', hcarrying, rfl, rfl⟩ := migrate_completes hlooks hdone
  obtain rfl : desired = desired' := Except.ok.inj (hdesired.symm.trans hdesired')
  obtain ⟨rfl, -⟩ := eq_of_desiredTable hdesired
  have hcleared := clearUp_completes hlooks hpresent hclearing
  -- both look at the same columns, so their plans are the same
  have hsame : ((currentColumns desired.name).run storage cleared).1 =
      ((currentColumns desired.name).run storage state).1 := by
    rcases hcleared with ⟨-, -, reply, hdrop⟩ | ⟨-, -, rfl⟩
    · exact run_currentColumns_of_drop hlooks hspares hdrop
    · rfl
  obtain rfl : found' = found := by
    rw [hfound.run_eq, hfound'.run_eq] at hsame
    exact Except.ok.inj hsame
  obtain ⟨count, hcount, hwrites⟩ := carryOut_plan_completes hcarrying
  refine ⟨course_changeOf _ copied, found', count, hfound.run_eq, fun hcourse => ?_, ?_⟩
  · obtain ⟨reply, hreply, hlength⟩ := hcount hcourse
    exact ⟨reply, List.mem_append_right _ hreply, hlength⟩
  · rw [writes_append, writes_append, (currentColumns_completes hlooks hfound').2, hwrites,
      List.append_nil]
    rcases hcleared with ⟨hshadow, hdropped, -⟩ | ⟨hshadow, hnone, -⟩
    · rw [hdropped, if_pos hshadow]
      rfl
    · rw [hnone, hshadow]
      rfl

/-! ## A database in memory -/

/-- Looking leaves a database as it is. -/
lemma looksOnly_database : LooksOnly Database.storage := by
  intro statement database hread
  cases statement with
  | readAll name =>
    rw [Database.storage, Database.apply]
    cases database.table? name <;> rfl
  | findTable _ | tableInfo _ | indexList _ | indexInfo _ => rfl
  | _ => cases hread

/-- The table of two people, and an empty shadow that was left beside it. -/
def peopleWithShadow : Database :=
  ⟨[people, ⟨"people_shadow", ageProperties.columns, []⟩], []⟩

/-- The rebuild of the table of people is shown, and then carried out as shown; before that the
shadow that was left is dropped. -/
theorem people_rebuilt_as_shown : ∃ plan batches,
    ((preview {} "people" ageProperties).run Database.storage peopleWithShadow).1 = .ok plan ∧
      plan.course = .rebuild ∧
      writes ((migrate {} "people" ageProperties).record Database.storage peopleWithShadow) =
        ["DROP TABLE people_shadow"] ++ plan.steps.flatMap (stepTexts batches) ∧
      writes ((migrate {} "people" ageProperties).record Database.storage peopleWithShadow) = [
        "DROP TABLE people_shadow",
        "CREATE TABLE people_shadow (age REAL)",
        "INSERT INTO people_shadow (age) SELECT NULL FROM people ORDER BY rowid LIMIT 100 OFFSET 0",
        "DROP TABLE people",
        "ALTER TABLE people_shadow RENAME TO people"] := by
  have hcourse : ((preview {} "people" ageProperties).run Database.storage
      peopleWithShadow).1.toOption.map Plan.course = some .rebuild := by
    decide +kernel
  obtain ⟨plan, hplan, hcourse⟩ := Option.map_eq_some_iff.mp hcourse
  have hplan := eq_ok_of_toOption hplan
  have hchange : ((migrate {} "people" ageProperties).run Database.storage
      peopleWithShadow).1.toOption = some (.rebuilt 2) := by
    decide +kernel
  have hchange := eq_ok_of_toOption hchange
  have hspares : DropSpares Database.storage peopleWithShadow "people_shadow" "people" := by
    intro reply after hdrop statement hstatement
    cases hdrop
    cases hstatement with
    | indexInfo hreply hrow hname =>
      -- the table of people has no index
      cases hreply
      cases hrow
    | _ => rfl
  have hshadow : finds Database.storage peopleWithShadow "people_shadow" = true := by decide +kernel
  obtain ⟨-, found, count, -, -, hwrites⟩ :=
    (migration_follows_preview looksOnly_database hspares (.inl rfl)).2 plan _ _ _
      (Prod.ext hplan rfl) (Prod.ext hchange rfl)
  have hname : ({} : MigrationOptions).shadowName "people" = "people_shadow" := by decide +kernel
  have hdrop : "DROP TABLE " ++ "people_shadow" = "DROP TABLE people_shadow" := by decide +kernel
  rw [hname, if_pos hshadow, hdrop] at hwrites
  refine ⟨plan, _, hplan, hcourse, hwrites, ?_⟩
  rw [writes_eq_map]
  decide +kernel

end DocTables.Migration
