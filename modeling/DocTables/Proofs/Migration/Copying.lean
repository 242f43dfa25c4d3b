import DocTables.Proofs.Migration.CopyBeforeDrop
import DocTables.Proofs.Migration.Inspection
import DocTables.Proofs.Result

/-!
# Every row is copied just once

A copy whose keys differ sends one batch for each window of the rows that were read, and a storage
that copies slices then has all rows of the source in the target, in order and in their new shape
(`rows_copied_once`).  A database in memory is such a storage: in the course of a copy the source
stays as it is, the target grows, and no other table is touched (`MidCopy`).
-/

namespace DocTables.Migration

open Dialogue

/-! ## Databases -/

/-- A database in the course of a copy: the source has its rows, the target has those that were
copied so far, and every other table is as it was. -/
structure MidCopy (database : Database) (copy : RowCopy) (columns : List Column)
    (rows copied : List Row) (reached : Database) : Prop where
  source : ∃ stored, reached.table? copy.source = some stored ∧ stored.rows = rows
  target : reached.table? copy.target = some ⟨copy.target, columns, copied⟩
  frame : ∀ name, name ≠ copy.target → reached.table? name = database.table? name

/-- A database copies slices from one table to another. -/
lemma copiesSlices_midCopy {database : Database} {copy : RowCopy} {columns : List Column}
    (hne : copy.source ≠ copy.target) :
    CopiesSlices Database.storage copy (Database.copiedRow copy)
      (MidCopy database copy columns) where
  reads := by
    intro rows copied reached h
    obtain ⟨stored, hstored, rfl⟩ := h.source
    exact ⟨_, _, Database.storage_readAll hstored, rfl, h⟩
  copies := by
    intro rows copied reached limit offset h
    obtain ⟨stored, hstored, rfl⟩ := h.source
    refine ⟨_, _, Database.storage_copyRows hstored h.target, ?_, ⟨stored, ?_, rfl⟩, ?_, ?_⟩
    · rw [List.length_map]
      rfl
    · rw [Database.table?_mapTable, if_neg hne, hstored]
      exact fun _ => rfl
    · rw [Database.table?_mapTable, if_pos rfl, h.target]
      · rfl
      · exact fun _ => rfl
    · intro name hname
      rw [Database.table?_mapTable, if_neg hname, h.frame name hname]
      exact fun _ => rfl

/-! ## Whole tables -/

variable {options : MigrationOptions} {source target : String} {properties : PropertySet}
  {desired : Table} {live : List ReportedColumn} {τ : Type} {state reached : τ} {reply : Reply}

/-- A copy whose keys differ, and of which no statement fails, reads the rows and then sends a batch
for each of the windows that cut their number; batches of no rows count as batches of one.  Against
a storage that copies slices, and reports how many rows these are, the target then has all rows of
the source, each once and in order, and their number is the result. -/
theorem rows_copied_once (storage : Storage MigrationStatement τ)
    (hread : storage (.readAll source) state = (.ok reply, reached))
    (hkeys : ∀ key, desired.primaryKey? = some key →
      KeysDiffer key.name (reply.toRows.map (reshape properties))) :
    ((∀ exchange ∈ (copyTable options source target properties desired live).record storage state,
        ∃ answer, exchange.2 = .ok answer) →
      ∃ offsets, Windows (if options.batchSize = 0 then 1 else options.batchSize)
          reply.toRows.length offsets ∧
        ((copyTable options source target properties desired live).record storage state).map
            (fun exchange => exchange.1.sql) =
          ("SELECT * FROM " ++ source) :: offsets.map fun offset =>
            (RowCopy.ofProperties source target properties (live.map ReportedColumn.name)).text ++
              " ORDER BY rowid LIMIT " ++
              toString (if options.batchSize = 0 then 1 else options.batchSize) ++
              " OFFSET " ++ toString offset) ∧
    ∀ {α β : Type} {shape : α → β} {holds : List α → List β → τ → Prop} {rows : List α}
      {copied : List β},
      CopiesSlices storage
        (.ofProperties source target properties (live.map ReportedColumn.name)) shape holds →
      holds rows copied state →
      ∃ after, (copyTable options source target properties desired live).run storage state =
          (.ok rows.length, after) ∧
        holds rows (copied ++ rows.map shape) after := by
  have hsize : (if options.batchSize = 0 then 1 else options.batchSize) =
      max options.batchSize 1 := by
    split <;> omega
  have hpositive : 0 < max options.batchSize 1 := by omega
  have hcheck := keyCheck_eq_ok_iff.mpr hkeys
  rw [hsize]
  refine ⟨fun hanswered => ⟨_, windows_batchOffsets hpositive _, ?_⟩, ?_⟩
  · rw [copyTable_eq, record, hread] at hanswered ⊢
    dsimp only at hanswered ⊢
    rw [hcheck, done_ok_bind] at hanswered ⊢
    obtain ⟨-, hanswered⟩ := List.forall_mem_cons.mp hanswered
    obtain ⟨copied, after, hcompletes⟩ := completes_of_answered
      (@copyBatches_sends (fun _ => True) _ (fun _ _ => trivial) _ _) hanswered
    rw [List.map_cons, ← Function.comp_def MigrationStatement.sql Prod.fst, ← List.map_map,
      copyBatches_sent hcompletes, List.map_map]
    rfl
  · intro α β shape holds rows copied hcopies hholds
    obtain ⟨reply', reached', hread', hcount, hreached⟩ := hcopies.reads hholds
    obtain ⟨rfl, rfl⟩ : reply' = reply ∧ reached' = reached := by
      rw [RowCopy.ofProperties, hread] at hread'
      obtain ⟨hreply, hafter⟩ := Prod.mk.inj hread'
      exact ⟨(Except.ok.inj hreply).symm, hafter.symm⟩
    obtain ⟨result, after, hrun, rfl, hafter⟩ :=
      (copyBatches_ensures hcopies (fun _ => trivial)
        (batchOffsets (max options.batchSize 1) reply'.toRows.length) hreached).run_eq
    rw [hcount, flatMap_slices hpositive] at hafter hrun
    refine ⟨after, ?_, hafter⟩
    rw [copyTable_eq, run, hread]
    dsimp only
    rw [hcheck, done_ok_bind, hcount, hrun]
    rfl

/-- The names of five people. -/
def personIds : List String := ["a", "b", "c", "d", "e"]

/-- The table of five people, with an age that is to go. -/
def fivePeople : StoredTable where
  name := "people"
  columns := [.plain "id" .text, .plain "age" .real]
  rows := personIds.map fun id => [("id", .string id), ("age", .null)]

/-- A database in which the table of five people is about to be copied into its shadow. -/
def beforePeopleCopied : Database :=
  ⟨[fivePeople, ⟨"people_shadow", keyProperties.columns, []⟩], []⟩

/-- The copy of five people into the shadow, two by two. -/
def copyPeople : Migrating Nat :=
  copyTable { batchSize := 2 } "people" "people_shadow" keyProperties
    ⟨"people", keyProperties.columns⟩ (fivePeople.columns.map reportedColumn)

/-- Five people are copied two by two, in three batches of which the last is short. -/
theorem five_people_copied_once :
    (∃ offsets, Windows 2 5 offsets ∧
      (copyPeople.record Database.storage beforePeopleCopied).map (fun exchange => exchange.1.sql) =
        "SELECT * FROM people" :: offsets.map fun offset =>
          "INSERT INTO people_shadow (id) SELECT id FROM people ORDER BY rowid LIMIT 2 OFFSET " ++
            toString offset) ∧
    ∃ after, copyPeople.run Database.storage beforePeopleCopied = (.ok 5, after) ∧
      after.table? "people_shadow" = some ⟨"people_shadow", keyProperties.columns,
        personIds.map fun id => [("id", .string id)]⟩ := by
  have hread : Database.storage (.readAll "people") beforePeopleCopied =
      (.ok (.rows fivePeople.rows), beforePeopleCopied) := rfl
  have hkeys : ∀ key, (⟨"people", keyProperties.columns⟩ : Table).primaryKey? = some key →
      KeysDiffer key.name ((Reply.rows fivePeople.rows).toRows.map (reshape keyProperties)) := by
    have hcheck : (keyCheck ⟨"people", keyProperties.columns⟩
        (fivePeople.rows.map (reshape keyProperties))).toOption = some () := by
      decide +kernel
    exact keyCheck_eq_ok_iff.mp (eq_ok_of_toOption hcheck)
  have hanswered : (copyPeople.record Database.storage beforePeopleCopied).all
      (fun exchange => exchange.2.toOption.isSome) = true := by
    decide +kernel
  have htext : (RowCopy.ofProperties "people" "people_shadow" keyProperties
      ((fivePeople.columns.map reportedColumn).map ReportedColumn.name)).text ++
      " ORDER BY rowid LIMIT " ++ toString 2 ++ " OFFSET " =
        "INSERT INTO people_shadow (id) SELECT id FROM people ORDER BY rowid LIMIT 2 OFFSET " := by
    decide +kernel
  have hne : "people" ≠ "people_shadow" := by decide
  have hstart : MidCopy beforePeopleCopied (.ofProperties "people" "people_shadow" keyProperties
      ((fivePeople.columns.map reportedColumn).map ReportedColumn.name)) keyProperties.columns
      fivePeople.rows [] beforePeopleCopied :=
    ⟨⟨fivePeople, rfl, rfl⟩, rfl, fun _ _ => rfl⟩
  obtain ⟨hbatches, hcopies⟩ := @rows_copied_once { batchSize := 2 } "people" "people_shadow"
    keyProperties ⟨"people", keyProperties.columns⟩ (fivePeople.columns.map reportedColumn) _ _ _ _
    Database.storage hread hkeys
  refine ⟨?_, ?_⟩
  · obtain ⟨offsets, hwindows, hsent⟩ := hbatches fun exchange hexchange => by
      have hsome := List.all_eq_true.mp hanswered exchange hexchange
      obtain ⟨answer, hanswer⟩ := Option.isSome_iff_exists.mp hsome
      exact ⟨answer, eq_ok_of_toOption hanswer⟩
    refine ⟨offsets, hwindows, hsent.trans ?_⟩
    rw [← htext]
    rfl
  · obtain ⟨after, hrun, hafter⟩ := hcopies (copiesSlices_midCopy hne) hstart
    exact ⟨after, hrun, hafter.target⟩

end DocTables.Migration
