import DocTables.Proofs.Migration.Batches
import DocTables.Storage.Script

/-!
# Nothing is dropped before it is copied

A storage may answer anything: rows where none were asked for, writes in place of rows, failures at
any moment.  Whatever it answers, a migration asks for its table to be dropped only after all rows
were read, their keys were found to differ, and every batch of the copy was answered; and the shadow
takes the name of the table only right after that, or when the table was found to be gone.

`Permitted` says after which records a statement may be sent.  Every part of a migration keeps to it
(`migrate_permitted`), so it holds at every place of every record.
-/

namespace DocTables.Migration

open Dialogue

variable {options : MigrationOptions} {table : String} {properties : PropertySet} {desired : Table}
  {live : List ReportedColumn}

/-- The statements of a migration that were sent, with the answers to them. -/
abbrev History := List (Exchange MigrationStatement)

/-! ## Keys -/

/-- Every row has a value for the key that is not `null`, and no two of the values have the same
text. -/
def KeysDiffer (key : String) (rows : List Row) : Prop :=
  (∀ row ∈ rows, ∃ value, row.get? key = some value ∧ value.isNull = false) ∧
    (rows.map fun row => ((row.get? key).getD .null).text).Nodup

/-- A value that is not `null` is present. -/
lemma isNull_getD_eq_false_iff (value : Option Json) :
    (value.getD .null).isNull = false ↔ ∃ json, value = some json ∧ json.isNull = false := by
  cases value with
  | none => simp [Json.isNull]
  | some json => simp

/-- The check of keys passes just if the keys differ from each other and from those seen before. -/
lemma checkKeys_eq_ok_iff (key : String) (seen : List String) (rows : List Row) :
    checkKeys key seen rows = .ok () ↔
      KeysDiffer key rows ∧ ∀ row ∈ rows, ((row.get? key).getD .null).text ∉ seen := by
  induction rows generalizing seen with
  | nil => simp [checkKeys, KeysDiffer]
  | cons row rest ih =>
    unfold checkKeys
    cases hnull : ((row.get? key).getD .null).isNull with
    | true =>
      have habsent : ¬ ∃ json, row.get? key = some json ∧ json.isNull = false := by
        rw [← isNull_getD_eq_false_iff, hnull]
        exact Bool.noConfusion
      simp [KeysDiffer, hnull, habsent]
    | false =>
      have hpresent := (isNull_getD_eq_false_iff _).mp hnull
      by_cases hseen : ((row.get? key).getD .null).text ∈ seen
      · simp [hnull, hseen]
      · simp only [hnull, hseen, Bool.false_eq_true, if_false, ih]
        rw [KeysDiffer, KeysDiffer, List.forall_mem_cons, List.forall_mem_cons, List.map_cons,
          List.nodup_cons, List.mem_map]
        constructor
        · rintro ⟨⟨hvalues, hnodup⟩, hothers⟩
          refine ⟨⟨⟨hpresent, hvalues⟩, ?_, hnodup⟩, hseen, ?_⟩
          · rintro ⟨other, hother, htext⟩
            exact hothers other hother (htext ▸ List.mem_cons_self)
          · exact fun other hother hlater => hothers other hother (List.mem_cons_of_mem _ hlater)
        · rintro ⟨⟨⟨-, hvalues⟩, hfirst, hnodup⟩, -, hothers⟩
          refine ⟨⟨hvalues, hnodup⟩, fun other hother hmem => ?_⟩
          rcases List.mem_cons.mp hmem with htext | hlater
          · exact hfirst ⟨other, hother, htext⟩
          · exact hothers other hother hlater

/-- The keys of rows are checked against each other, if there is a primary key. -/
lemma keyCheck_eq_ok_iff {rows : List Row} :
    keyCheck desired rows = .ok () ↔
      ∀ key, desired.primaryKey? = some key → KeysDiffer key.name rows := by
  unfold keyCheck
  cases desired.primaryKey? with
  | none => simp
  | some key => simp [checkKeys_eq_ok_iff]

/-! ## What may be sent -/

/-- All rows of the table were read, their keys in the new shape differ, and each batch that their
number calls for was copied into the shadow. -/
def CopiedIn (options : MigrationOptions) (table : String) (properties : PropertySet)
    (past : History) : Prop :=
  ∃ (earlier copies : History) (reply : Reply) (present : List String),
    past = earlier ++ (.readAll table, .ok reply) :: copies ∧
    (∀ key, properties.columns.find? Column.primaryKey = some key →
      KeysDiffer key.name (reply.toRows.map (reshape properties))) ∧
    ∀ batch, batch * max options.batchSize 1 < reply.toRows.length → ∃ written,
      (MigrationStatement.copyRows
        (.ofProperties table (options.shadowName table) properties present)
        (max options.batchSize 1) (batch * max options.batchSize 1), .ok written) ∈ copies

/-- The last thing that happened is that the table was dropped. -/
def JustDropped (table : String) (past : History) : Prop :=
  ∃ earlier reply, past = earlier ++ [(.dropTable table, .ok reply)]

/-- All that happened is that the shadow was found and its table was not. -/
def FoundOnlyShadow (options : MigrationOptions) (table : String) (past : History) : Prop :=
  ∃ found missing : Reply,
    past = [(.findTable (options.shadowName table), .ok found), (.findTable table, .ok missing)] ∧
    found.toRows ≠ [] ∧ missing.toRows = []

/-- The table was not yet asked to be dropped. -/
def NotDropped (table : String) (past : History) : Prop :=
  ∀ exchange ∈ past, exchange.1 ≠ .dropTable table

/-- After which records a statement may be sent. -/
structure Permitted (options : MigrationOptions) (table : String) (properties : PropertySet)
    (past : History) (statement : MigrationStatement) : Prop where
  /-- The table is dropped once, and after it was copied. -/
  drop : statement = .dropTable table →
    NotDropped table past ∧ CopiedIn options table properties past
  /-- The shadow takes the name of the table after the table was dropped, or was found missing. -/
  rename : statement = .renameTable (options.shadowName table) table →
    JustDropped table past ∨ FoundOnlyShadow options table past

/-- A statement that neither drops the table nor renames its shadow. -/
def Harmless (options : MigrationOptions) (table : String)
    (statement : MigrationStatement) : Prop :=
  statement ≠ .dropTable table ∧ statement ≠ .renameTable (options.shadowName table) table

/-- What is harmless may always be sent. -/
lemma Harmless.permitted {statement : MigrationStatement} (h : Harmless options table statement)
    (past : History) : Permitted options table properties past statement :=
  ⟨fun hdrop => absurd hdrop h.1, fun hrename => absurd hrename h.2⟩

/-- What only reads is harmless. -/
lemma harmless_of_isRead {statement : MigrationStatement} (h : statement.isRead = true) :
    Harmless options table statement := by
  constructor
  · rintro rfl
    cases h
  · rintro rfl
    cases h

/-- What was not dropped before and is not dropped by what follows is not dropped. -/
lemma NotDropped.append {past sent : History} (h : NotDropped table past)
    (hsent : NotDropped table sent) : NotDropped table (past ++ sent) := by
  intro exchange hexchange
  rcases List.mem_append.mp hexchange with hpast | hlater
  · exact h exchange hpast
  · exact hsent exchange hlater

/-- One more statement that does not drop the table. -/
lemma NotDropped.concat {past : History} {statement : MigrationStatement}
    {answer : Except StorageError Reply} (h : NotDropped table past)
    (hstatement : statement ≠ .dropTable table) :
    NotDropped table (past ++ [(statement, answer)]) :=
  h.append (List.forall_mem_singleton.mpr hstatement)

lemma notDropped_nil : NotDropped table [] := List.forall_mem_nil _

/-! ## The parts of a migration -/

/-- Clearing up drops nothing but a shadow whose table was found, and renames nothing but a shadow
whose table was not. -/
lemma clearUp_permitted (hsuffix : options.shadowSuffix ≠ "") :
    (clearUp options table).Ensures (.ofRecords (Permitted options table properties))
      (fun _ after => NotDropped table after) [] := by
  have hfind : ∀ (past : History) (name : String),
      Permitted options table properties past (.findTable name) := fun past name =>
    (harmless_of_isRead rfl).permitted past
  simp only [clearUp, hasTable_bind]
  refine Ensures.askRecorded (hfind _ _) fun found => ?_
  have hfirst : NotDropped table ([] ++ [(.findTable (options.shadowName table), .ok found)]) :=
    notDropped_nil.concat MigrationStatement.noConfusion
  cases hfound : found.toRows with
  | nil =>
    simp only [List.isEmpty_nil, Bool.not_true, Bool.false_eq_true, if_false]
    exact hfirst
  | cons first rest =>
    simp only [List.isEmpty_cons, Bool.not_false, if_true]
    refine Ensures.askRecorded (hfind _ _) fun missing => ?_
    have hboth : NotDropped table ([] ++ [(.findTable (options.shadowName table), .ok found)] ++
        [(.findTable table, .ok missing)]) := hfirst.concat MigrationStatement.noConfusion
    cases hmissing : missing.toRows with
    | cons first' rest' =>
      simp only [List.isEmpty_cons, Bool.not_false, if_true]
      have hdrop : Harmless options table (.dropTable (options.shadowName table)) :=
        ⟨fun hdrop => shadowName_ne hsuffix (MigrationStatement.dropTable.inj hdrop),
          MigrationStatement.noConfusion⟩
      exact Ensures.askRecorded (hdrop.permitted _) fun reply => hboth.concat hdrop.1
    | nil =>
      simp only [List.isEmpty_nil, Bool.not_true, Bool.false_eq_true, if_false]
      have hrows : found.toRows ≠ [] := hfound ▸ List.cons_ne_nil _ _
      refine Ensures.askRecorded ⟨MigrationStatement.noConfusion, fun _ => .inr ?_⟩ fun reply => ?_
      · exact ⟨found, missing, rfl, hrows, hmissing⟩
      · exact hboth.concat MigrationStatement.noConfusion

/-- The batches of a copy are answered one by one. -/
lemma copyBatches_permitted {copy : RowCopy} {size : Nat} (offsets : List Nat) (past : History) :
    (copyBatches copy size offsets).Ensures (.ofRecords (Permitted options table properties))
      (fun _ after => ∃ copies : History, after = past ++ copies ∧ NotDropped table copies ∧
        ∀ offset ∈ offsets, ∃ written,
          (MigrationStatement.copyRows copy size offset, .ok written) ∈ copies) past := by
  induction offsets generalizing past with
  | nil => exact ⟨[], by simp, by simp [NotDropped], by simp⟩
  | cons offset rest ih =>
    have hcopy : Harmless options table (.copyRows copy size offset) :=
      ⟨MigrationStatement.noConfusion, MigrationStatement.noConfusion⟩
    refine Ensures.askRecorded (hcopy.permitted _) fun reply => ?_
    have hgrown : ∀ copies : History, NotDropped table copies →
        (∀ later ∈ rest, ∃ written,
          (MigrationStatement.copyRows copy size later, .ok written) ∈ copies) →
        ∃ copies' : History,
          past ++ [(MigrationStatement.copyRows copy size offset, .ok reply)] ++ copies =
            past ++ copies' ∧ NotDropped table copies' ∧
          ∀ later ∈ offset :: rest, ∃ written,
            (MigrationStatement.copyRows copy size later, .ok written) ∈ copies' := by
      intro copies hcopies hlater
      refine ⟨(.copyRows copy size offset, .ok reply) :: copies, by simp, ?_, ?_⟩
      · exact List.forall_mem_cons.mpr ⟨hcopy.1, hcopies⟩
      · refine List.forall_mem_cons.mpr ⟨⟨reply, List.mem_cons_self⟩, fun later hmem => ?_⟩
        obtain ⟨written, hwritten⟩ := hlater later hmem
        exact ⟨written, List.mem_cons_of_mem _ hwritten⟩
    refine (ih _).bind ?_ ?_
    · rintro copied after ⟨copies, rfl, hcopies, hlater⟩
      exact hgrown copies hcopies hlater
    · rintro reason after ⟨copies, rfl, hcopies, hlater⟩
      exact hgrown copies hcopies hlater

/-- A copy that is not refused leaves a record of everything that must come before the drop. -/
lemma copyTable_permitted {past : History} (hcolumns : desired.columns = properties.columns)
    (hpast : NotDropped table past) :
    (copyTable options table (options.shadowName table) properties desired live).Ensures
      (.ofRecords (Permitted options table properties))
      (fun result after => ∀ copied, result = .ok copied →
        NotDropped table after ∧ CopiedIn options table properties after) past := by
  have hpositive : 0 < max options.batchSize 1 := by omega
  have hread : Harmless options table (.readAll table) := harmless_of_isRead rfl
  rw [copyTable_eq]
  refine Ensures.askRecorded (hread.permitted _) fun reply => ?_
  cases hcheck : keyCheck desired (reply.toRows.map (reshape properties)) with
  | error reason =>
    intro copied hcopied
    cases hcopied
  | ok _ =>
    refine (copyBatches_permitted _ _).mono ?_
    rintro result after ⟨copies, rfl, hcopies, hoffsets⟩ copied -
    refine ⟨(hpast.concat hread.1).append hcopies, past, copies, reply,
      live.map ReportedColumn.name, ?_, fun key hkey => ?_, ?_⟩
    · rw [List.append_assoc, List.singleton_append]
    · refine keyCheck_eq_ok_iff.mp hcheck key ?_
      rw [Table.primaryKey?, hcolumns, hkey]
    · intro batch hbatch
      exact hoffsets _ ((mem_batchOffsets_iff hpositive).mpr ⟨batch, rfl, hbatch⟩)

/-! ## Plans -/

/-- Steps that each send a harmless statement are carried out harmlessly. -/
lemma carryOut_permitted {steps : List PlanStep} {copied : Nat} {past : History}
    (hsteps : ∀ step ∈ steps, ∃ statement, step.statement? = some statement ∧
      Harmless options table statement) :
    (carryOut options properties desired live copied steps).Ensures
      (.ofRecords (Permitted options table properties)) (fun _ _ => True) past := by
  have hsends : (carryOut options properties desired live copied steps).Ensures
      (.ofStatements (Harmless options table)) (fun _ _ => True) () := carryOut_sends hsteps
  have hpermitted : ∀ past statement, Harmless options table statement →
      Permitted options table properties past statement :=
    fun past statement hharmless => hharmless.permitted past
  exact (hsends.ofRecords hpermitted).mono fun _ _ _ => trivial

/-- The steps that create indexes are harmless. -/
lemma indexSteps_harmless (options : MigrationOptions) (table : String) (desired : Table) :
    ∀ step ∈ Plan.indexSteps options desired, ∃ statement, step.statement? = some statement ∧
      Harmless options table statement := by
  obtain ⟨columns, hcolumns⟩ := indexSteps_eq options desired
  intro step hstep
  rw [hcolumns] at hstep
  obtain ⟨column, -, rfl⟩ := List.mem_map.mp hstep
  exact ⟨_, rfl, MigrationStatement.noConfusion, MigrationStatement.noConfusion⟩

/-- The steps that add columns are harmless. -/
lemma addColumn_harmless (options : MigrationOptions) (table name : String) (added : List Column) :
    ∀ step ∈ added.map (PlanStep.addColumn name), ∃ statement, step.statement? = some statement ∧
      Harmless options table statement := by
  intro step hstep
  obtain ⟨column, -, rfl⟩ := List.mem_map.mp hstep
  exact ⟨_, rfl, MigrationStatement.noConfusion, MigrationStatement.noConfusion⟩

/-- A rebuild drops the table after it was copied, and renames the shadow right after that. -/
lemma carryOut_rebuild_permitted {copied : Nat} {past : History} (hname : desired.name = table)
    (hcolumns : desired.columns = properties.columns) (hpast : NotDropped table past) :
    (carryOut options properties desired live copied
      (Plan.rebuildSteps desired (options.shadowName desired.name) ++
        Plan.indexSteps options desired)).Ensures
      (.ofRecords (Permitted options table properties)) (fun _ _ => True) past := by
  subst hname
  have hcreate : Harmless options desired.name
      (.createTable (desired.withName (options.shadowName desired.name))) :=
    ⟨MigrationStatement.noConfusion, MigrationStatement.noConfusion⟩
  simp only [Plan.rebuildSteps, List.cons_append, List.nil_append]
  rw [carryOut_cons _ _ rfl]
  refine Ensures.askRecorded (hcreate.permitted _) fun _ => ?_
  rw [carryOut_copyRows]
  refine (copyTable_permitted hcolumns (hpast.concat hcreate.1)).bind ?_ fun _ _ _ => trivial
  intro copied after hafter
  rw [carryOut_cons _ _ rfl]
  refine Ensures.askRecorded ⟨fun _ => hafter copied rfl, MigrationStatement.noConfusion⟩ ?_
  intro reply
  rw [carryOut_cons _ _ rfl]
  refine Ensures.askRecorded ⟨MigrationStatement.noConfusion, fun _ => .inl ⟨after, reply, rfl⟩⟩ ?_
  exact fun _ => carryOut_permitted (indexSteps_harmless options _ desired)

/-- The plan for any columns that were found is carried out as it may be. -/
lemma carryOut_plan_permitted {found : Option (List ReportedColumn)} {past : History}
    (hname : desired.name = table) (hcolumns : desired.columns = properties.columns)
    (hpast : NotDropped table past) :
    (carryOut options properties desired (found.getD []) 0
      (Plan.make options desired found).steps).Ensures
      (.ofRecords (Permitted options table properties)) (fun _ _ => True) past := by
  have hindexes := indexSteps_harmless options table desired
  cases found with
  | none =>
    refine carryOut_permitted (List.forall_mem_cons.mpr ⟨⟨_, rfl, ?_⟩, hindexes⟩)
    exact ⟨MigrationStatement.noConfusion, MigrationStatement.noConfusion⟩
  | some live =>
    simp only [Plan.make, Option.getD_some]
    split
    · exact carryOut_rebuild_permitted hname hcolumns hpast
    · split
      · refine carryOut_permitted fun step hstep => ?_
        rcases List.mem_append.mp hstep with hadd | hindex
        · exact addColumn_harmless options table _ _ step hadd
        · exact hindexes step hindex
      · exact carryOut_permitted hindexes

/-- Whatever the storage answers, a migration only sends what it may. -/
lemma migrate_permitted (hsuffix : options.shadowSuffix ≠ "") :
    (migrate options table properties).Ensures
      (.ofRecords (Permitted options table properties)) (fun _ _ => True) [] := by
  unfold migrate
  cases hdesired : desiredTable table properties with
  | error reason => trivial
  | ok desired =>
    obtain ⟨hname, hcolumns⟩ := eq_of_desiredTable hdesired
    simp only [liftM_eq_done, done_ok_bind]
    refine (clearUp_permitted hsuffix).bind ?_ fun _ _ _ => trivial
    intro _ cleared hcleared
    refine ((currentColumns_reads table).ofRecords fun past statement hread =>
      (harmless_of_isRead hread).permitted past).bind ?_ fun _ _ _ => trivial
    rintro found after ⟨sent, rfl, hsent⟩
    have hreads : ∀ exchange ∈ sent, Harmless options table exchange.1 :=
      fun exchange hexchange => harmless_of_isRead (hsent exchange hexchange)
    have hpast : NotDropped table (cleared ++ sent) :=
      hcleared.append fun exchange hexchange => (hreads exchange hexchange).1
    refine (carryOut_plan_permitted hname hcolumns hpast).bind ?_ fun _ _ _ => trivial
    exact fun _ _ _ => trivial

/-! ## Records -/

/-- What never occurs twice in a list, one occurrence before the other, is counted at most once. -/
lemma count_le_one_of_not_mem_before {α : Type} [DecidableEq α] {x : α} {list : List α}
    (h : ∀ before after, list = before ++ x :: after → x ∉ before) : list.count x ≤ 1 := by
  induction list with
  | nil => exact Nat.zero_le 1
  | cons y rest ih =>
    by_cases hy : y = x
    · subst hy
      have hrest : y ∉ rest := by
        intro hmem
        obtain ⟨before, after, rfl⟩ := List.append_of_mem hmem
        exact h (y :: before) after rfl List.mem_cons_self
      have hzero : rest.count y = 0 := List.count_eq_zero_of_not_mem hrest
      rw [List.count_cons_self]
      omega
    · rw [List.count_cons_of_ne hy]
      refine ih fun before after hsplit hmem => ?_
      exact h (y :: before) after (by rw [hsplit, List.cons_append]) (List.mem_cons_of_mem _ hmem)

/-- Properties with a primary key of text. -/
def keyProperties : PropertySet where
  toList := [{ Property.plain "id" .string with primaryKey := true }]
  names_valid := by
    intro property hproperty
    rw [List.mem_singleton.mp hproperty]
    decide +kernel
  names_nodup := List.nodup_cons.mpr ⟨List.not_mem_nil, List.nodup_nil⟩
  primaryKeys_le_one := by decide

/-- Answers for a table with two rows and a column that is to go, up to the drop of the table. -/
def rebuildReplies : List (Except StorageError Reply) :=
  [.ok (.rows []),
    .ok (.rows [[("name", .string "people")]]),
    .ok (.rows [[("name", .string "id")], [("name", .string "age")]]),
    .ok (.rows []),
    .ok (.written none 0),
    .ok (.rows [[("id", .string "a"), ("age", .null)], [("id", .string "b"), ("age", .null)]]),
    .ok (.written none 1),
    .ok (.written none 1)]

/-- Whatever a storage answers to a migration: after the first failure nothing more is sent, and the
migration ends with that failure; the table is dropped at most once, and after all of it was copied;
and its shadow takes its name right after that, or when only the shadow was found. -/
theorem dropped_only_after_copy {τ : Type} (hsuffix : options.shadowSuffix ≠ "")
    (storage : Storage MigrationStatement τ) (state : τ) :
    (∀ before statement error after,
      (migrate options table properties).record storage state =
        before ++ (statement, .error error) :: after →
      after = [] ∧
        ((migrate options table properties).run storage state).1 = .error (.storage error)) ∧
    (((migrate options table properties).record storage state).map Prod.fst).count
      (.dropTable table) ≤ 1 ∧
    (∀ before answer after,
      (migrate options table properties).record storage state =
        before ++ (.dropTable table, answer) :: after →
      CopiedIn options table properties before) ∧
    ∀ before answer after,
      (migrate options table properties).record storage state =
        before ++ (.renameTable (options.shadowName table) table, answer) :: after →
      JustDropped table before ∨ FoundOnlyShadow options table before := by
  have hpermitted : ∀ before statement answer after,
      (migrate options table properties).record storage state =
        before ++ (statement, answer) :: after →
      Permitted options table properties before statement := by
    intro before statement answer after hrecord
    exact (migrate_permitted hsuffix).mayAsk_of_record hrecord
  refine ⟨fun before statement error after hrecord => record_error hrecord, ?_, ?_, ?_⟩
  · refine count_le_one_of_not_mem_before fun before after hsplit hmem => ?_
    obtain ⟨earlier, later, hrecord, rfl, hlater⟩ := List.map_eq_append_iff.mp hsplit
    obtain ⟨⟨statement, answer⟩, rest, rfl, rfl, -⟩ := List.map_eq_cons_iff.mp hlater
    obtain ⟨exchange, hexchange, hdrop⟩ := List.mem_map.mp hmem
    exact ((hpermitted _ _ _ _ hrecord).drop rfl).1 exchange hexchange hdrop
  · exact fun before answer after hrecord => ((hpermitted _ _ _ _ hrecord).drop rfl).2
  · exact fun before answer after hrecord => (hpermitted _ _ _ _ hrecord).rename rfl

/-- With batches of one row, the drop is the ninth statement; it fails for want of an answer. -/
theorem people_dropped_after_copy :
    ∃ before answer after,
      (migrate { batchSize := 1 } "people" keyProperties).record Script.answer
        (Script.start rebuildReplies) = before ++ (.dropTable "people", answer) :: after ∧
      before.length = 8 ∧ CopiedIn { batchSize := 1 } "people" keyProperties before := by
  have hsuffix : ({ batchSize := 1 } : MigrationOptions).shadowSuffix ≠ "" := by decide
  have hsent : (((migrate { batchSize := 1 } "people" keyProperties).record Script.answer
      (Script.start rebuildReplies)).map Prod.fst)[8]? = some (.dropTable "people") := by
    decide +kernel
  rw [List.getElem?_map, Option.map_eq_some_iff] at hsent
  obtain ⟨⟨statement, answer⟩, hexchange, rfl⟩ := hsent
  obtain ⟨hlength, hget⟩ := List.getElem?_eq_some_iff.mp hexchange
  have hrecord := List.take_append_drop 8
    ((migrate { batchSize := 1 } "people" keyProperties).record Script.answer
      (Script.start rebuildReplies))
  rw [List.drop_eq_getElem_cons hlength, hget] at hrecord
  obtain ⟨-, -, hcopied, -⟩ := dropped_only_after_copy hsuffix Script.answer
    (Script.start rebuildReplies)
  refine ⟨_, answer, _, hrecord.symm, ?_, hcopied _ _ _ hrecord.symm⟩
  rw [List.length_take]
  omega

end DocTables.Migration
