import DocTables.Proofs.Migration.Steps
import DocTables.Proofs.Storage.Prepared
import Mathlib.Data.List.Forall2

/-!
# What is read of a live table

A table is looked at by one statement for its existence, one for its columns, one for its indexes,
and one more for each index that stands for a constraint (`Inspection`).  The columns are those of
the rows that are reported (`ReportedColumn.ReadFrom`), and a column excludes repeated values just
if it is all that is reported of such an index.

`reads_live_metadata` says this of every list of replies, whatever their rows are, up to the first
failure of the storage.
-/

namespace DocTables

/-! ## Rows -/

/-- A field of a row is a positive integer of 64 signed bits. -/
def Row.IsRaised (row : Row) (field : String) : Prop :=
  ∃ n : Int, Json.Fields.get? row field = some (.number (.int n)) ∧ 0 < n ∧ n ≤ Json.greatestInt64

/-- A row is named by a text. -/
def Row.IsNamed (row : Row) (name : String) : Prop :=
  Json.Fields.get? row "name" = some (.string name)

/-- A row of `index_list` describes an index that stands for a constraint of the table. -/
structure StandsForConstraint (row : Row) (index : String) : Prop where
  origin : row.get? "origin" = some (.string "u")
  unique : Row.IsRaised row "unique"
  name : Row.IsNamed row index

/-- The indexes that stand for constraints, in the order of the rows that list them. -/
inductive ConstraintIndexes : List Row → List String → Prop
  | nil : ConstraintIndexes [] []
  | taken {row : Row} {index : String} {rows : List Row} {indexes : List String}
    (h : StandsForConstraint row index) (hrest : ConstraintIndexes rows indexes) :
    ConstraintIndexes (row :: rows) (index :: indexes)
  | skipped {row : Row} {rows : List Row} {indexes : List String}
    (h : ∀ index, ¬ StandsForConstraint row index) (hrest : ConstraintIndexes rows indexes) :
    ConstraintIndexes (row :: rows) indexes

/-- A column is what a row of `table_info` says of it. -/
structure ReportedColumn.ReadFrom (row : Row) (column : ReportedColumn) : Prop where
  name : Row.IsNamed row column.name
  declaredType : ∀ type, row.get? "type" = some (.string type) → column.declaredType = type
  noType : (∀ type, row.get? "type" ≠ some (.string type)) → column.declaredType = ""
  notNull : column.notNull = true ↔ Row.IsRaised row "notnull"
  primaryKey : column.primaryKey = true ↔ Row.IsRaised row "pk"
  noDefault : column.default = none ↔
    row.get? "dflt_value" = none ∨ row.get? "dflt_value" = some .null
  textDefault : ∀ text, row.get? "dflt_value" = some (.string text) → column.default = some text
  otherDefault : ∀ value, row.get? "dflt_value" = some value → value.isNull = false →
    value.string? = none → column.default = some value.text

namespace Migration

open Dialogue

/-! ## Reading rows -/

section Rows

variable {row : Row} {rows : List Row} {column : ReportedColumn} {columns : List ReportedColumn}
  {field name : String}

/-- The values that are integers of 64 signed bits. -/
lemma int64?_eq_some_iff {value : Json} {n : Int} :
    value.int64? = some n ↔
      value = .number (.int n) ∧ Json.leastInt64 ≤ n ∧ n ≤ Json.greatestInt64 := by
  rcases value with _ | _ | (m | x) | _ | _ | _ <;>
    simp only [Json.int64?, Json.Number.toInt64?, reduceCtorEq, false_and, Json.number.injEq]
  rw [Option.ite_none_right_eq_some, Json.Number.int.injEq, Option.some.injEq]
  constructor
  · rintro ⟨hfits, rfl⟩
    exact ⟨rfl, hfits⟩
  · rintro ⟨rfl, hfits⟩
    exact ⟨hfits, rfl⟩

lemma string?_eq_some_iff {value : Json} {text : String} :
    value.string? = some text ↔ value = .string text := by
  cases value <;> simp [Json.string?]

/-- The texts that stand in a field of a row. -/
lemma get?_bind_string? {text : String} :
    (Json.Fields.get? row field).bind Json.string? = some text ↔
      Json.Fields.get? row field = some (.string text) := by
  simp only [Option.bind_eq_some_iff, string?_eq_some_iff, exists_eq_right]

lemma flag_eq_true_iff : ReportedColumn.flag row field = true ↔ Row.IsRaised row field := by
  have hleast : Json.leastInt64 ≤ 0 := by decide
  have hvalue : ∀ n, (Json.Fields.get? row field).bind Json.int64? = some n ↔
      Json.Fields.get? row field = some (.number (.int n)) ∧
        Json.leastInt64 ≤ n ∧ n ≤ Json.greatestInt64 := by
    intro n
    simp only [Option.bind_eq_some_iff, int64?_eq_some_iff]
    constructor
    · rintro ⟨_, hget, rfl, hfits⟩
      exact ⟨hget, hfits⟩
    · rintro ⟨hget, hfits⟩
      exact ⟨_, hget, rfl, hfits⟩
  unfold ReportedColumn.flag Row.IsRaised
  constructor
  · intro h
    split at h
    · rename_i n hn
      obtain ⟨hget, -, hfits⟩ := (hvalue n).mp hn
      exact ⟨n, hget, of_decide_eq_true h, hfits⟩
    · cases h
  · rintro ⟨n, hget, hpos, hfits⟩
    rw [(hvalue n).mpr ⟨hget, by omega, hfits⟩]
    exact decide_eq_true hpos

/-- The rows that are read as indexes of constraints. -/
lemma constraintIndexName?_eq_some_iff :
    ReportedColumn.constraintIndexName? row = some name ↔ StandsForConstraint row name := by
  rw [ReportedColumn.constraintIndexName?, Option.ite_none_right_eq_some, get?_bind_string?,
    get?_bind_string?, flag_eq_true_iff]
  constructor
  · rintro ⟨⟨horigin, hunique⟩, hname⟩
    exact ⟨horigin, hunique, hname⟩
  · rintro ⟨horigin, hunique, hname⟩
    exact ⟨⟨horigin, hunique⟩, hname⟩

lemma constraintIndexes_names (rows : List Row) :
    ConstraintIndexes rows (ReportedColumn.constraintIndexNames rows) := by
  induction rows with
  | nil => exact .nil
  | cons row rows ih =>
    rw [ReportedColumn.constraintIndexNames]
    rcases hname : ReportedColumn.constraintIndexName? row with _ | name
    · rw [List.filterMap_cons_none hname]
      refine .skipped (fun index hindex => ?_) ih
      rw [constraintIndexName?_eq_some_iff.mpr hindex] at hname
      cases hname
    · rw [List.filterMap_cons_some hname]
      exact .taken (constraintIndexName?_eq_some_iff.mp hname) ih

/-- The only column of an index is that of the only row. -/
lemma onlyColumn?_eq_some_iff :
    ReportedColumn.onlyColumn? rows = some name ↔ ∃ row, rows = [row] ∧ Row.IsNamed row name := by
  rcases rows with _ | ⟨row, _ | ⟨second, rest⟩⟩
  · simp [ReportedColumn.onlyColumn?]
  · simp [ReportedColumn.onlyColumn?, get?_bind_string?, Row.IsNamed]
  · simp [ReportedColumn.onlyColumn?]

/-- The type that is read for a column. -/
lemma getD_string? (row : Row) (field : String) :
    (∀ text, Json.Fields.get? row field = some (.string text) →
        ((Json.Fields.get? row field).bind Json.string?).getD "" = text) ∧
      ((∀ text, Json.Fields.get? row field ≠ some (.string text)) →
        ((Json.Fields.get? row field).bind Json.string?).getD "" = "") := by
  refine ⟨fun text htext => ?_, fun hnone => ?_⟩
  · rw [get?_bind_string?.mpr htext, Option.getD_some]
  · have hread : (Json.Fields.get? row field).bind Json.string? = none :=
      Option.eq_none_iff_forall_ne_some.mpr fun text htext =>
        hnone text (get?_bind_string?.mp htext)
    rw [hread, Option.getD_none]

/-- A row that names no column is refused, and any other row is read. -/
lemma ofTableInfo_spec (row : Row) :
    (∃ column, ReportedColumn.ofTableInfo row = .ok column ∧ column.ReadFrom row) ∨
      (∀ name, ¬ Row.IsNamed row name) ∧
        ReportedColumn.ofTableInfo row = .error (.namelessColumn row) := by
  unfold ReportedColumn.ofTableInfo
  split
  · rename_i name hname
    left
    obtain ⟨htype, hnoType⟩ := getD_string? row "type"
    refine ⟨_, rfl, ⟨hname, htype, hnoType, flag_eq_true_iff, flag_eq_true_iff, ?_, ?_, ?_⟩⟩
    · rcases hdefault : Json.Fields.get? row "dflt_value" with _ | (_ | _ | _ | _ | _ | _) <;> simp
    · intro text htext
      simp only [htext]
    · intro value hvalue hnull hstring
      rcases value with _ | _ | _ | _ | _ | _ <;> simp_all [Json.isNull, Json.string?]
  · rename_i hnameless
    exact .inr ⟨hnameless, rfl⟩

/-- Rows are read in order, up to the first that names no column. -/
lemma ofTableInfoRows_spec (rows : List Row) :
    (∃ columns, ReportedColumn.ofTableInfoRows rows = .ok columns ∧
        List.Forall₂ ReportedColumn.ReadFrom rows columns) ∨
      ∃ row ∈ rows, (∀ name, ¬ Row.IsNamed row name) ∧
        ReportedColumn.ofTableInfoRows rows = .error (.namelessColumn row) := by
  induction rows with
  | nil => exact .inl ⟨[], rfl, .nil⟩
  | cons row rows ih =>
    rw [ReportedColumn.ofTableInfoRows]
    rcases ofTableInfo_spec row with ⟨column, hcolumn, hread⟩ | ⟨hnameless, hrefused⟩
    · rw [hcolumn]
      rcases ih with ⟨columns, hcolumns, hreads⟩ | ⟨other, hother, hnameless, hrefused⟩
      · rw [hcolumns]
        exact .inl ⟨_, rfl, .cons hread hreads⟩
      · rw [hrefused]
        exact .inr ⟨other, List.mem_cons_of_mem row hother, hnameless, rfl⟩
    · rw [hrefused]
      exact .inr ⟨row, List.mem_cons_self, hnameless, rfl⟩

/-- Rows that are read are named. -/
lemma named_of_readFrom (h : List.Forall₂ ReportedColumn.ReadFrom rows columns) :
    ∀ row ∈ rows, ∃ name, Row.IsNamed row name := by
  induction h with
  | nil => exact List.forall_mem_nil _
  | cons hread _ ih => exact List.forall_mem_cons.mpr ⟨⟨_, hread.name⟩, ih⟩

end Rows

/-! ## What is sent and found -/

/-- The statements that look at a table, by the rows in which it is found and in which its columns
and its indexes are listed. -/
inductive Inspection (table : String) (found info listed : List Row) :
    List MigrationStatement → Prop
  /-- The table is not there. -/
  | absent (hfound : found = []) : Inspection table found info listed [.findTable table]
  /-- A column has no name. -/
  | nameless (hfound : found ≠ []) {row : Row} (hrow : row ∈ info)
    (hnameless : ∀ name, ¬ Row.IsNamed row name) :
    Inspection table found info listed [.findTable table, .tableInfo table]
  /-- The constraints are looked up. -/
  | named (hfound : found ≠ []) (hnamed : ∀ row ∈ info, ∃ name, Row.IsNamed row name)
    {indexes : List String} (hindexes : ConstraintIndexes listed indexes) :
    Inspection table found info listed
      (.findTable table :: .tableInfo table :: .indexList table :: indexes.map .indexInfo)

/-- The rows of the reply in a place, of which there are none if it has not come. -/
def rowsAt (given : List Reply) (place : Nat) : List Row := (given[place]?.map Reply.toRows).getD []

/-- The columns that single indexes have to themselves. -/
def onlyColumns (given : List Reply) : List String :=
  given.flatMap fun reply => (ReportedColumn.onlyColumn? reply.toRows).toList

/-- What is made of columns and of those among them that exclude repeated values. -/
def foundColumns (table : String) (columns : List ReportedColumn) (unique : List String) :
    Except MigrationError (Option (List ReportedColumn)) :=
  if columns.isEmpty then .error (.noColumns table)
  else .ok (some (columns.map fun column => { column with unique := column.name ∈ unique }))

variable {table : String} {given : List Reply} {sent : List MigrationStatement}
  {failure : StorageError} {result : Except MigrationError (Option (List ReportedColumn))}

/-- The indexes are looked up one after the other. -/
lemma asked_columnsOfIndexes (indexes : List String) (given : List Reply) :
    (columnsOfIndexes indexes).asked given = (indexes.map .indexInfo).take (given.length + 1) := by
  induction indexes generalizing given with
  | nil => exact List.take_nil.symm
  | cons index indexes ih =>
    rcases given with _ | ⟨reply, given⟩
    · rfl
    · rw [List.map_cons, List.length_cons, List.take_succ_cons, ← ih]
      exact congrArg (MigrationStatement.indexInfo index :: ·) (asked_bind_done _ _)

/-- Only replies for all indexes bring this to an end. -/
lemma outcome?_columnsOfIndexes (indexes : List String) {given : List Reply}
    {result : Except MigrationError (List String)}
    (h : (columnsOfIndexes indexes).outcome? given = some result) :
    indexes.length ≤ given.length ∧ result = .ok (onlyColumns (given.take indexes.length)) := by
  induction indexes generalizing given result with
  | nil => exact ⟨Nat.zero_le _, (Option.some.inj h).symm⟩
  | cons index indexes ih =>
    rcases given with _ | ⟨reply, given⟩
    · cases h
    · have hrest : ((columnsOfIndexes indexes).outcome? given).map (· >>= fun columns =>
          .ok ((ReportedColumn.onlyColumn? reply.toRows).toList ++ columns)) = some result :=
        (outcome?_bind_done _ _).symm.trans h
      obtain ⟨_, hcolumns, rfl⟩ := Option.map_eq_some_iff.mp hrest
      obtain ⟨hlength, rfl⟩ := ih hcolumns
      exact ⟨Nat.succ_le_succ hlength, rfl⟩

/-- The columns that replies report alone. -/
lemma mem_onlyColumns {name : String} :
    name ∈ onlyColumns given ↔
      ∃ reply ∈ given, ∃ row, reply.toRows = [row] ∧ Row.IsNamed row name := by
  simp only [onlyColumns, List.mem_flatMap, Option.mem_toList, onlyColumn?_eq_some_iff]

/-- Looking at a table, written out. -/
lemma currentColumns_of_plain (hplain : isPlainName table = true) :
    currentColumns table = .ask (.findTable table) fun found =>
      if found.toRows.isEmpty then .done (.ok none)
      else .ask (.tableInfo table) fun info =>
        .done (ReportedColumn.ofTableInfoRows info.toRows) >>= fun columns =>
          .ask (.indexList table) fun listed =>
            columnsOfIndexes (ReportedColumn.constraintIndexNames listed.toRows) >>= fun unique =>
              .done (foundColumns table columns unique) := by
  unfold currentColumns
  rw [hasTable_bind]
  refine congrArg _ (funext fun found => ?_)
  rcases hfound : found.toRows.isEmpty with _ | _
  · rw [reportedColumns_of_plain hplain]
    refine congrArg (Dialogue.ask (MigrationStatement.tableInfo table)) (funext fun info => ?_)
    refine (bind_bind _ _ _).trans (congrArg _ (funext fun columns => ?_))
    refine congrArg (Dialogue.ask (MigrationStatement.indexList table)) (funext fun listed => ?_)
    refine (bind_bind _ _ _).trans (congrArg _ (funext fun unique => ?_))
    rcases columns with _ | ⟨column, columns⟩ <;> rfl
  · rfl

/-- How looking at a table ends when there are replies to all statements that are sent. -/
inductive Ending (table : String) (given : List Reply) :
    List MigrationStatement → Except MigrationError (Option (List ReportedColumn)) → Prop
  /-- The table is not there. -/
  | absent (hgiven : given ≠ []) (hfound : rowsAt given 0 = []) :
    Ending table given [.findTable table] (.ok none)
  /-- A column has no name. -/
  | nameless (hfound : rowsAt given 0 ≠ []) {row : Row} (hrow : row ∈ rowsAt given 1)
    (hnameless : ∀ name, ¬ Row.IsNamed row name) :
    Ending table given [.findTable table, .tableInfo table] (.error (.namelessColumn row))
  /-- There are no columns. -/
  | empty (hfound : rowsAt given 0 ≠ []) (hempty : rowsAt given 1 = []) (indexes : List String) :
    Ending table given
      (.findTable table :: .tableInfo table :: .indexList table :: indexes.map .indexInfo)
      (.error (.noColumns table))
  /-- There are columns, and all of them have names. -/
  | named (hfound : rowsAt given 0 ≠ []) (hne : rowsAt given 1 ≠ [])
    {columns : List ReportedColumn} {indexes : List String}
    (hreads : List.Forall₂ ReportedColumn.ReadFrom (rowsAt given 1) columns)
    (hreplies : indexes.length ≤ (given.drop 3).length) :
    Ending table given
      (.findTable table :: .tableInfo table :: .indexList table :: indexes.map .indexInfo)
      (.ok (some (columns.map fun column =>
        { column with unique := column.name ∈ onlyColumns ((given.drop 3).take indexes.length) })))

/-- When all rows are named and all replies are there, the columns are what is found. -/
lemma ending_of_columns {found info listed : Reply} {columns : List ReportedColumn}
    {indexes : List String} (hfound : found.toRows ≠ [])
    (hreads : List.Forall₂ ReportedColumn.ReadFrom info.toRows columns)
    (hlength : indexes.length ≤ given.length) :
    Ending table (found :: info :: listed :: given)
      (.findTable table :: .tableInfo table :: .indexList table :: indexes.map .indexInfo)
      (foundColumns table columns (onlyColumns (given.take indexes.length))) := by
  have hfound' : rowsAt (found :: info :: listed :: given) 0 ≠ [] := hfound
  rcases columns with _ | ⟨column, columns⟩
  · exact .empty hfound' (List.forall₂_nil_right_iff.mp hreads) indexes
  · have hne : rowsAt (found :: info :: listed :: given) 1 ≠ [] := by
      intro hrows
      rw [show info.toRows = [] from hrows] at hreads
      cases hreads
    exact .named hfound' hne hreads hlength

/-- A table is looked at by an inspection, as far as there are replies, and to an ending, if there
are enough of them. -/
lemma currentColumns_spec (hplain : isPlainName table = true) (given : List Reply) :
    (∃ whole, Inspection table (rowsAt given 0) (rowsAt given 1) (rowsAt given 2) whole ∧
      (currentColumns table).asked given = whole.take (given.length + 1)) ∧
    ∀ result, (currentColumns table).outcome? given = some result →
      Ending table given ((currentColumns table).asked given) result := by
  rw [currentColumns_of_plain hplain]
  -- a reply that has not come counts as one without rows: what it would decide is cut off
  rcases given with _ | ⟨found, given⟩
  · exact ⟨⟨_, .absent rfl, rfl⟩, fun result h => by cases h⟩
  rw [asked, outcome?]
  by_cases hfound : found.toRows = []
  · rw [hfound]
    refine ⟨⟨_, .absent hfound, rfl⟩, fun result h => ?_⟩
    obtain rfl := Option.some.inj h
    exact .absent (List.cons_ne_nil _ _) hfound
  have hfound' : ∀ later, rowsAt (found :: later) 0 ≠ [] := fun _ => hfound
  rw [if_neg (mt List.isEmpty_iff.mp hfound)]
  rcases given with _ | ⟨info, given⟩
  · exact ⟨⟨_, .named (hfound' _) (List.forall_mem_nil _) .nil, rfl⟩, fun result h => by cases h⟩
  rw [asked, outcome?]
  rcases ofTableInfoRows_spec info.toRows with
    ⟨columns, hcolumns, hreads⟩ | ⟨row, hrow, hnameless, hrefused⟩
  · rw [hcolumns, done_ok_bind]
    have hnamed := named_of_readFrom hreads
    rcases given with _ | ⟨listed, given⟩
    · exact ⟨⟨_, .named (hfound' _) hnamed .nil, rfl⟩, fun result h => by cases h⟩
    rw [asked, outcome?, asked_bind_done, outcome?_bind_done, asked_columnsOfIndexes]
    refine ⟨⟨_, .named (hfound' _) hnamed (constraintIndexes_names listed.toRows), rfl⟩,
      fun result h => ?_⟩
    obtain ⟨_, hunique, rfl⟩ := Option.map_eq_some_iff.mp h
    obtain ⟨hlength, rfl⟩ := outcome?_columnsOfIndexes _ hunique
    have hall :
        (ReportedColumn.constraintIndexNames listed.toRows).length ≤ given.length + 1 := by omega
    rw [List.take_of_length_le (by rwa [List.length_map])]
    exact ending_of_columns hfound hreads hlength
  · rw [hrefused, done_error_bind]
    refine ⟨⟨_, .nameless (hfound' _) hrow hnameless, rfl⟩, fun result h => ?_⟩
    obtain rfl := Option.some.inj h
    exact .nameless (hfound' _) hrow hnameless

/-- The columns that are found for indexes, by the statements that look the indexes up. -/
lemma mem_onlyColumns_take {indexes : List String} {name : String}
    (hreplies : indexes.length ≤ (given.drop 3).length) :
    name ∈ onlyColumns ((given.drop 3).take indexes.length) ↔
      ∃ place index row,
        (.findTable table :: .tableInfo table :: .indexList table ::
          indexes.map MigrationStatement.indexInfo)[place]? = some (.indexInfo index) ∧
        rowsAt given place = [row] ∧ Row.IsNamed row name := by
  rw [mem_onlyColumns]
  constructor
  · rintro ⟨reply, hreply, row, hrow, hname⟩
    obtain ⟨place, hplace⟩ := List.mem_iff_getElem?.mp hreply
    rw [List.getElem?_take, Option.ite_none_right_eq_some, List.getElem?_drop,
      Nat.add_comm] at hplace
    obtain ⟨hlt, hplace⟩ := hplace
    refine ⟨place + 3, indexes[place], row, ?_, ?_, hname⟩
    · rw [List.getElem?_cons_succ, List.getElem?_cons_succ, List.getElem?_cons_succ,
        List.getElem?_map, List.getElem?_eq_getElem hlt, Option.map_some]
    · rw [rowsAt, hplace, Option.map_some, Option.getD_some, hrow]
  · rintro ⟨place, index, row, hindex, hrow, hname⟩
    rcases place with _ | _ | _ | place
    · cases hindex
    · cases hindex
    · cases hindex
    · have hlt : place < indexes.length := by
        rw [List.getElem?_cons_succ, List.getElem?_cons_succ, List.getElem?_cons_succ] at hindex
        rw [← List.length_map]
        exact (List.getElem?_eq_some_iff.mp hindex).1
      rw [List.length_drop] at hreplies
      have hplace : place + 3 < given.length := by omega
      rw [rowsAt, List.getElem?_eq_getElem hplace, Option.map_some, Option.getD_some] at hrow
      refine ⟨given[place + 3], List.mem_iff_getElem?.mpr ⟨place, ?_⟩, row, hrow, hname⟩
      rw [List.getElem?_take_of_lt hlt, List.getElem?_drop, Nat.add_comm,
        List.getElem?_eq_getElem hplace]

/-- What an ending finds. -/
lemma Ending.columns {columns : List ReportedColumn} (h : Ending table given sent result)
    (hcolumns : result = .ok (some columns)) :
    List.Forall₂ ReportedColumn.ReadFrom (rowsAt given 1) columns ∧
    ∀ column ∈ columns, column.unique = true ↔ ∃ place index row,
      sent[place]? = some (.indexInfo index) ∧ rowsAt given place = [row] ∧
        Row.IsNamed row column.name := by
  rcases h with _ | _ | _ | @⟨-, hne, live, indexes, hreads, hreplies⟩
  · cases hcolumns
  · cases hcolumns
  · cases hcolumns
  · obtain rfl := Option.some.inj (Except.ok.inj hcolumns)
    refine ⟨?_, fun column hcolumn => ?_⟩
    -- the mark is the only part of a column that its row does not tell
    · rw [List.forall₂_map_right_iff]
      exact hreads.imp fun row column hread => ⟨hread.name, hread.declaredType, hread.noType,
        hread.notNull, hread.primaryKey, hread.noDefault, hread.textDefault, hread.otherDefault⟩
    · obtain ⟨reported, -, rfl⟩ := List.mem_map.mp hcolumn
      dsimp only
      rw [decide_eq_true_iff, mem_onlyColumns_take hreplies]

/-- When an ending is a refusal. -/
lemma Ending.refused_iff (h : Ending table given sent result)
    (hfound : rowsAt given 0 ≠ []) :
    (∃ reason, result = .error reason) ↔
      (∃ row ∈ rowsAt given 1, ∀ name, ¬ Row.IsNamed row name) ∨ rowsAt given 1 = [] := by
  rcases h with ⟨-, habsent⟩ | @⟨-, row, hrow, hnameless⟩ | ⟨-, hempty⟩ | ⟨-, hne, hreads, -⟩
  · exact absurd habsent hfound
  · exact iff_of_true ⟨_, rfl⟩ (.inl ⟨row, hrow, hnameless⟩)
  · exact iff_of_true ⟨_, rfl⟩ (.inr hempty)
  · refine iff_of_false (fun ⟨reason, hreason⟩ => by cases hreason) ?_
    rintro (⟨row, hrow, hnameless⟩ | hempty)
    · obtain ⟨name, hname⟩ := named_of_readFrom hreads row hrow
      exact hnameless name hname
    · exact hne hempty

lemma Ending.absent_iff (h : Ending table given sent result) :
    result = .ok none ↔ given ≠ [] ∧ rowsAt given 0 = [] := by
  rcases h with ⟨hgiven, habsent⟩ | hfound | hfound | hfound
  · exact iff_of_true rfl ⟨hgiven, habsent⟩
  · exact iff_of_false (fun hresult => by cases hresult) fun habsent => hfound habsent.2
  · exact iff_of_false (fun hresult => by cases hresult) fun habsent => hfound habsent.2
  · exact iff_of_false (fun hresult => by cases hresult) fun habsent => hfound habsent.2

/-- The reasons of refusals. -/
lemma Ending.reason_cases {reason : MigrationError} (h : Ending table given sent result)
    (hreason : result = .error reason) :
    (reason = .noColumns table ∧ rowsAt given 1 = []) ∨
      ∃ row ∈ rowsAt given 1, (∀ name, ¬ Row.IsNamed row name) ∧
        reason = .namelessColumn row ∧ sent = [.findTable table, .tableInfo table] := by
  rcases h with _ | @⟨-, row, hrow, hnameless⟩ | ⟨-, hempty⟩ | _
  · cases hreason
  · exact .inr ⟨row, hrow, hnameless, (Except.error.inj hreason).symm, rfl⟩
  · exact .inl ⟨(Except.error.inj hreason).symm, hempty⟩
  · cases hreason

/-- What is sent and found when a table is looked at, by the replies that come before a failure. -/
structure ReadsLive (table : String) (given : List Reply) (failure : StorageError)
    (sent : List MigrationStatement)
    (result : Except (Failure MigrationError) (Option (List ReportedColumn))) : Prop where
  /-- The statements are those of an inspection, up to the first without a reply. -/
  statements : ∃ whole, Inspection table (rowsAt given 0) (rowsAt given 1) (rowsAt given 2) whole ∧
    sent = whole.take (given.length + 1)
  /-- If the last statement has no reply, the failure is the result. -/
  failed : ∀ error, result = .error (.storage error) ↔
    sent.length = given.length + 1 ∧ error = failure
  /-- There is no table just if the first reply says so. -/
  absent : result = .ok none ↔ given ≠ [] ∧ rowsAt given 0 = []
  /-- The columns are those that are reported, and those that exclude repeated values are reported
  alone for an index that stands for a constraint. -/
  columns : ∀ columns, result = .ok (some columns) →
    List.Forall₂ ReportedColumn.ReadFrom (rowsAt given 1) columns ∧
    ∀ column ∈ columns, column.unique = true ↔ ∃ place index row,
      sent[place]? = some (.indexInfo index) ∧ rowsAt given place = [row] ∧
        Row.IsNamed row column.name
  /-- A table that is there is refused just if a column has no name, or if there is none. -/
  refused : rowsAt given 0 ≠ [] → (∀ error, result ≠ .error (.storage error)) →
    ((∃ reason, result = .error (.refused reason)) ↔
      (∃ row ∈ rowsAt given 1, ∀ name, ¬ Row.IsNamed row name) ∨ rowsAt given 1 = [])
  /-- Nothing is sent after the report on a column without a name. -/
  reason : ∀ reason, result = .error (.refused reason) →
    (reason = .noColumns table ∧ rowsAt given 1 = []) ∨
      ∃ row ∈ rowsAt given 1, (∀ name, ¬ Row.IsNamed row name) ∧
        reason = .namelessColumn row ∧ sent = [.findTable table, .tableInfo table]

/-- A storage that fails is the reason why there is no result. -/
lemma readsLive_of_stopped
    (hstatements : ∃ whole,
      Inspection table (rowsAt given 0) (rowsAt given 1) (rowsAt given 2) whole ∧
      sent = whole.take (given.length + 1))
    (hlength : sent.length = given.length + 1) :
    ReadsLive table given failure sent (.error (.storage failure)) where
  statements := hstatements
  failed error := by
    rw [Except.error.injEq, Failure.storage.injEq, and_iff_right hlength, eq_comm]
  absent := by
    refine iff_of_false (fun h => by cases h) ?_
    rintro ⟨hgiven, hfound⟩
    obtain ⟨whole, hwhole, rfl⟩ := hstatements
    have hpos := List.length_pos_iff.mpr hgiven
    rcases hwhole with _ | hne | hne
    · rw [List.length_take, List.length_singleton] at hlength
      omega
    · exact hne hfound
    · exact hne hfound
  columns columns hcolumns := by cases hcolumns
  refused _ hfailed := absurd rfl (hfailed failure)
  reason reason hreason := by cases hreason

/-- What is sent and found up to an ending. -/
lemma Ending.readsLive (h : Ending table given sent result)
    (hstatements : ∃ whole,
      Inspection table (rowsAt given 0) (rowsAt given 1) (rowsAt given 2) whole ∧
      sent = whole.take (given.length + 1))
    (hlength : sent.length ≠ given.length + 1) :
    ReadsLive table given failure sent (result.mapError .refused) where
  statements := hstatements
  failed error := iff_of_false mapError_refused_ne_storage fun hfailed => hlength hfailed.1
  absent := mapError_refused_eq_ok_iff.trans h.absent_iff
  columns columns hcolumns := h.columns (mapError_refused_eq_ok_iff.mp hcolumns)
  refused hfound _ := by
    simp only [mapError_refused_eq_error_iff]
    exact h.refused_iff hfound
  reason reason hreason := h.reason_cases (mapError_refused_eq_error_iff.mp hreason)

/-- A table with a plain name is looked at faithfully, whatever the storage answers. -/
theorem reads_live_metadata (hplain : isPlainName table = true)
    (replies : List (Except StorageError Reply)) :
    ReadsLive table (Script.given replies) (Script.failure replies)
      ((currentColumns table).run Script.answer (Script.start replies)).2.sent
      ((currentColumns table).run Script.answer (Script.start replies)).1 := by
  obtain ⟨hresult, hsent⟩ := run_answer (currentColumns table) replies []
  rw [List.nil_append] at hsent
  rw [show Script.start replies = ⟨replies, []⟩ from rfl, hresult, hsent]
  obtain ⟨hstatements, hends⟩ := currentColumns_spec hplain (Script.given replies)
  have hstopped := outcome?_eq_none_iff (currentColumns table) (Script.given replies)
  rcases houtcome : (currentColumns table).outcome? (Script.given replies) with _ | result
  · exact readsLive_of_stopped hstatements (hstopped.mp houtcome)
  · have hlength : ((currentColumns table).asked (Script.given replies)).length ≠
        (Script.given replies).length + 1 := by
      rw [Ne, ← hstopped, houtcome]
      exact Option.some_ne_none result
    exact (hends result houtcome).readsLive hstatements hlength

/-- The replies of a storage that has people with an email address which nobody shares. -/
def peopleReplies : List (Except StorageError Reply) :=
  [.ok (.rows [[("name", .string "people")]]),
    .ok (.rows [[("name", .string "id"), ("type", .string "INTEGER"), ("pk", .number (.int 1))],
      [("name", .string "email"), ("type", .string "TEXT"), ("notnull", .number (.int 1))]]),
    .ok (.rows [[("name", .string "by_id"), ("unique", .number (.int 1)), ("origin", .string "pk")],
      [("name", .string "both"), ("unique", .number (.int 1)), ("origin", .string "u")],
      [("name", .string "mails"), ("unique", .number (.int 1)), ("origin", .string "u")]]),
    .ok (.rows [[("name", .string "id")], [("name", .string "email")]]),
    .ok (.rows [[("name", .string "email")]])]

/-- Of two indexes for constraints only one has a column to itself. -/
theorem people_read_live :
    isPlainName "people" = true ∧
      (currentColumns "people").run Script.answer (Script.start peopleReplies) =
        (.ok (some [⟨"id", "INTEGER", false, none, true, false⟩,
            ⟨"email", "TEXT", true, none, false, true⟩]),
          ⟨[], [.findTable "people", .tableInfo "people", .indexList "people", .indexInfo "both",
            .indexInfo "mails"]⟩) ∧
      ReadsLive "people" (Script.given peopleReplies) (Script.failure peopleReplies)
        ((currentColumns "people").run Script.answer (Script.start peopleReplies)).2.sent
        ((currentColumns "people").run Script.answer (Script.start peopleReplies)).1 := by
  have hplain : isPlainName "people" = true := by decide +kernel
  refine ⟨hplain, ?_, reads_live_metadata hplain peopleReplies⟩
  rw [currentColumns_of_plain hplain]
  rfl

end Migration

end DocTables
