import DocTables.Proofs.Migration.ColumnIdentity
import DocTables.Proofs.Name
import Mathlib.Data.List.Nodup

/-!
# What a plan does, and why

`IsDifference` says what calls for the rebuild of a live table: a column that is not declared, a
declared column that is missing and cannot be added in place, and a column that is there but not as
it is declared.  A plan gives just these as its reasons, rebuilds the table just if there is one,
adds the missing columns if there is none, and has the steps of its course and no others
(`plan_follows_differences`).
-/

namespace DocTables.Migration

variable {options : MigrationOptions} {desired : Table} {live : List ReportedColumn}
  {column : Column} {current : ReportedColumn} {difference : Difference}

/-! ## Differences -/

/-- How a live column differs from its declaration.  Only outside the primary key does the exclusion
of repeated values count: there it has an index of its own. -/
inductive Differs (column : Column) (current : ReportedColumn) : Difference → Prop
  /-- The types have different names, even if blanks around them and the case of letters are
  ignored. -/
  | type (h : Text.equalIgnoringAsciiCase column.type.name
      (Text.trim current.declaredType) = false) :
    Differs column current (.type column.name current.declaredType column.type.name)
  /-- One is the primary key and the other one is not. -/
  | primaryKey (h : column.primaryKey ≠ current.primaryKey) :
    Differs column current (.primaryKey column.name)
  /-- One excludes repeated values and the other one does not. -/
  | unique (hkey : column.primaryKey = false) (h : column.unique ≠ current.unique) :
    Differs column current (.unique column.name)
  /-- One excludes `NULL` and the other one does not. -/
  | notNull (h : column.notNull ≠ current.notNull) : Differs column current (.notNull column.name)
  /-- The texts of the defaults are different, or just one has a default. -/
  | default (h : column.defaultLiteral ≠ current.default) :
    Differs column current (.default column.name current.default column.defaultLiteral)

/-- What calls for the rebuild of a table with the given columns. -/
inductive IsDifference (desired : Table) (live : List ReportedColumn) : Difference → Prop
  /-- A live column is not declared. -/
  | removed {current : ReportedColumn} (hcurrent : current ∈ live)
    (h : ∀ column ∈ desired.columns, column.name ≠ current.name) :
    IsDifference desired live (.removed current.name)
  /-- A declared column is missing, and it is one of those that cannot be added to a table with
  rows. -/
  | notAddable {column : Column} (hcolumn : column ∈ desired.columns)
    (hmissing : ∀ current ∈ live, current.name ≠ column.name)
    (h : column.unique = true ∨ column.primaryKey = true ∨
      column.notNull = true ∧ column.default = none) :
    IsDifference desired live (.notAddable column.name)
  /-- A declared column is there and differs. -/
  | changed {column : Column} {current : ReportedColumn} {difference : Difference}
    (hcolumn : column ∈ desired.columns) (hcurrent : current ∈ live)
    (hname : current.name = column.name) (h : Differs column current difference) :
    IsDifference desired live difference

/-- The declared columns that are missing. -/
def missingColumns (desired : Table) (live : List ReportedColumn) : List Column :=
  desired.columns.filter fun column => column.name ∉ live.map ReportedColumn.name

/-! ## The differences that are found -/

/-- No column is found just if there is none of the name. -/
lemma find?_eq_none_iff (name : String) :
    live.find? (fun current => current.name == name) = none ↔
      ∀ current ∈ live, current.name ≠ name := by
  simp only [List.find?_eq_none, beq_iff_eq, ne_eq]

/-- The differences of a column that is there are those that are found. -/
lemma mem_columnDifferences_iff :
    difference ∈ columnDifferences column current ↔ Differs column current difference := by
  have htype : ¬ column.type.isNamedBy current.declaredType = true ↔
      Text.equalIgnoringAsciiCase column.type.name (Text.trim current.declaredType) = false := by
    rw [Bool.not_eq_true, ColumnType.isNamedBy]
  have hunique : ¬ (column.primaryKey = true ∨ column.unique = current.unique) ↔
      column.primaryKey = false ∧ column.unique ≠ current.unique := by
    rw [not_or, Bool.not_eq_true]
  simp only [columnDifferences, List.mem_append, List.mem_ite_nil_left, List.mem_singleton, htype,
    hunique]
  constructor
  · rintro ((((⟨h, rfl⟩ | ⟨h, rfl⟩) | ⟨⟨hkey, h⟩, rfl⟩) | ⟨h, rfl⟩) | ⟨h, rfl⟩)
    · exact .type h
    · exact .primaryKey h
    · exact .unique hkey h
    · exact .notNull h
    · exact .default h
  · rintro (h | h | ⟨hkey, h⟩ | h | h)
    · exact .inl (.inl (.inl (.inl ⟨h, rfl⟩)))
    · exact .inl (.inl (.inl (.inr ⟨h, rfl⟩)))
    · exact .inl (.inl (.inr ⟨⟨hkey, h⟩, rfl⟩))
    · exact .inl (.inr ⟨h, rfl⟩)
    · exact .inr ⟨h, rfl⟩

/-- The columns that cannot be added in place. -/
lemma isAddable_eq_false_iff : column.isAddable = false ↔
    column.unique = true ∨ column.primaryKey = true ∨
      column.notNull = true ∧ column.default = none := by
  obtain ⟨name, type, unique, primaryKey, indexed, notNull, default⟩ := column
  cases unique <;> cases primaryKey <;> cases notNull <;> cases default <;> simp [Column.isAddable]

/-- The live columns that are not declared are those that are taken for removed. -/
lemma mem_removedColumns_iff : difference ∈ removedColumns desired live ↔
    ∃ current ∈ live, (∀ column ∈ desired.columns, column.name ≠ current.name) ∧
      difference = .removed current.name := by
  have hundeclared : ∀ current : ReportedColumn, (desired.column? current.name).isNone = true ↔
      ∀ column ∈ desired.columns, column.name ≠ current.name := by
    intro current
    simp only [Table.column?, Option.isNone_iff_eq_none, List.find?_eq_none, beq_iff_eq, ne_eq]
  simp only [removedColumns, List.mem_map, List.mem_filter, hundeclared, and_assoc, eq_comm]

/-- A missing column that cannot be added in place is a difference. -/
lemma notAddable_mem_differences (hcolumn : column ∈ desired.columns)
    (hmissing : ∀ current ∈ live, current.name ≠ column.name) (h : column.isAddable = false) :
    .notAddable column.name ∈ differences desired live := by
  refine List.mem_append_right _ (List.mem_flatMap.mpr ⟨column, hcolumn, ?_⟩)
  rw [declaredDifferences, (find?_eq_none_iff _).mpr hmissing, h]
  exact List.mem_singleton_self _

/-- The differences that are found are those that there are. -/
lemma mem_differences_iff (hdistinct : (live.map ReportedColumn.name).Nodup) :
    difference ∈ differences desired live ↔ IsDifference desired live difference := by
  constructor
  · rw [differences, List.mem_append, List.mem_flatMap, mem_removedColumns_iff]
    rintro (⟨current, hcurrent, hundeclared, rfl⟩ | ⟨column, hcolumn, hdeclared⟩)
    · exact .removed hcurrent hundeclared
    · unfold declaredDifferences at hdeclared
      split at hdeclared
      · rename_i current hfound
        obtain ⟨hcurrent, hname⟩ := (find?_name_eq_some_iff hdistinct).mp hfound
        exact .changed hcolumn hcurrent hname (mem_columnDifferences_iff.mp hdeclared)
      · rename_i hmissing
        rw [List.mem_ite_nil_left, Bool.not_eq_true, List.mem_singleton] at hdeclared
        obtain ⟨haddable, rfl⟩ := hdeclared
        exact .notAddable hcolumn ((find?_eq_none_iff _).mp hmissing)
          (isAddable_eq_false_iff.mp haddable)
  · rintro (⟨hcurrent, hundeclared⟩ | ⟨hcolumn, hmissing, h⟩ | ⟨hcolumn, hcurrent, hname, h⟩)
    · exact List.mem_append_left _ (mem_removedColumns_iff.mpr ⟨_, hcurrent, hundeclared, rfl⟩)
    · exact notAddable_mem_differences hcolumn hmissing (isAddable_eq_false_iff.mpr h)
    · refine List.mem_append_right _ (List.mem_flatMap.mpr ⟨_, hcolumn, ?_⟩)
      rw [declaredDifferences, (find?_name_eq_some_iff hdistinct).mpr ⟨hcurrent, hname⟩]
      exact mem_columnDifferences_iff.mpr h

/-- Where nothing calls for a rebuild, every missing column can be added. -/
lemma additions_eq_missingColumns (hsame : differences desired live = []) :
    additions desired live = missingColumns desired live := by
  rw [differences, List.append_eq_nil_iff, List.flatMap_eq_nil_iff] at hsame
  refine List.filter_congr fun column hcolumn => ?_
  have hdeclared := hsame.2 column hcolumn
  rw [declaredDifferences] at hdeclared
  cases hfound : live.find? fun current => current.name == column.name with
  | some current =>
    have hname : column.name ∈ live.map ReportedColumn.name :=
      List.mem_map.mpr ⟨current, mem_and_name_of_find? hfound⟩
    simp [hname]
  | none =>
    have hname : column.name ∉ live.map ReportedColumn.name := by
      rintro hmem
      obtain ⟨current, hcurrent, hname⟩ := List.mem_map.mp hmem
      exact (find?_eq_none_iff _).mp hfound current hcurrent hname
    have haddable : column.isAddable = true := by
      rw [hfound] at hdeclared
      by_contra hnot
      simp [hnot] at hdeclared
    simp [hname, haddable]

/-! ## Plans -/

/-- The steps of a course for the table itself, given the columns that are missing. -/
def courseSteps (options : MigrationOptions) (desired : Table) (missing : List Column) :
    PlanCourse → List PlanStep
  | .create => [.createTable desired]
  | .alter => missing.map (.addColumn desired.name)
  | .rebuild =>
    let shadow := desired.name ++ options.shadowSuffix
    [.createShadow ⟨shadow, desired.columns⟩, .copyRows desired.name shadow,
      .dropTable desired.name, .renameTable shadow desired.name]
  | .unchanged => []

/-- The plan for a live table, by what there is to do: a rebuild for the differences, the addition
of what is missing, or nothing. -/
lemma make_cases (options : MigrationOptions) (desired : Table) (live : List ReportedColumn) :
    ∃ course, Plan.make options desired (some live) =
      ⟨desired.name, course,
        courseSteps options desired (missingColumns desired live) course ++
          Plan.indexSteps options desired,
        if course = .alter then (missingColumns desired live).map Column.name else [],
        differences desired live⟩ ∧
      (course = .rebuild ∧ differences desired live ≠ [] ∨
        course = .alter ∧ differences desired live = [] ∧ missingColumns desired live ≠ [] ∨
        course = .unchanged ∧ differences desired live = [] ∧
        missingColumns desired live = []) := by
  by_cases hsame : differences desired live = []
  · have hadditions := additions_eq_missingColumns hsame
    by_cases hmissing : missingColumns desired live = []
    · refine ⟨.unchanged, ?_, .inr (.inr ⟨rfl, hsame, hmissing⟩)⟩
      simp [Plan.make, hsame, hadditions, hmissing, courseSteps]
    · refine ⟨.alter, ?_, .inr (.inl ⟨rfl, hsame, hmissing⟩)⟩
      simp [Plan.make, hsame, hadditions, hmissing, courseSteps]
  · refine ⟨.rebuild, ?_, .inl ⟨rfl, hsame⟩⟩
    simp [Plan.make, hsame, courseSteps, Plan.rebuildSteps, Table.withName,
      MigrationOptions.shadowName]

/-- A plan creates a table that is not there, rebuilds one that differs, adds the missing columns to
one that does not, and otherwise leaves the table alone.  Its reasons are the differences, and there
are some just if it rebuilds; it names the columns that it adds in the order of their declaration;
and its steps are those of its course, and after them one for each index, if indexes are wanted. -/
theorem plan_follows_differences (options : MigrationOptions) (desired : Table)
    (live : Option (List ReportedColumn))
    (hdistinct : ∀ columns ∈ live, (columns.map ReportedColumn.name).Nodup) :
    let plan := Plan.make options desired live
    (plan.course = .create ↔ live = none) ∧
    (plan.course = .rebuild ↔ ∃ columns ∈ live,
      ∃ difference, IsDifference desired columns difference) ∧
    (plan.course = .alter ↔ ∃ columns ∈ live,
      (¬ ∃ difference, IsDifference desired columns difference) ∧
      missingColumns desired columns ≠ []) ∧
    (plan.course = .unchanged ↔ ∃ columns ∈ live,
      (¬ ∃ difference, IsDifference desired columns difference) ∧
      missingColumns desired columns = []) ∧
    (plan.reasons ≠ [] ↔ plan.course = .rebuild) ∧
    (∀ difference, difference ∈ plan.reasons ↔
      ∃ columns ∈ live, IsDifference desired columns difference) ∧
    plan.added = (if plan.course = .alter then
      (missingColumns desired (live.getD [])).map Column.name else []) ∧
    plan.steps = courseSteps options desired (missingColumns desired (live.getD [])) plan.course ++
      (if options.createIndexes then desired.indexNames.map (.createIndex desired.name)
        else []) := by
  cases live with
  | none => simp [Plan.make, courseSteps, Plan.indexSteps]
  | some columns =>
    have hmem : ∀ difference, difference ∈ differences desired columns ↔
        IsDifference desired columns difference :=
      fun difference => mem_differences_iff (hdistinct columns rfl)
    have hsome : (∃ difference, IsDifference desired columns difference) ↔
        differences desired columns ≠ [] := by
      simp only [← hmem, ne_eq, List.eq_nil_iff_forall_not_mem, not_forall, not_not]
    obtain ⟨course, hmake, hcourse⟩ := make_cases options desired columns
    simp only [hmake, Option.mem_some_iff, exists_eq_left', hsome, hmem, Option.getD_some,
      Plan.indexSteps, reduceCtorEq, iff_false, and_self, implies_true, and_true]
    rcases hcourse with ⟨rfl, hdiffers⟩ | ⟨rfl, hsame, hmissing⟩ | ⟨rfl, hsame, hmissing⟩
    · simp [hdiffers]
    · simp [hsame, hmissing]
    · simp [hsame, hmissing]

/-- People with a unique name that is the primary key. -/
def keyedPeople : Table where
  name := "people"
  columns := [{ Column.plain "name" .text with unique := true, primaryKey := true },
    .plain "age" .real]

/-- A live table of people, with blanks around the name of a type and with a town. -/
def livePeople : List ReportedColumn :=
  [⟨"name", " text ", false, none, true, false⟩, ⟨"town", "TEXT", false, none, false, false⟩]

/-- The table is rebuilt because of the town, and for no other reason; the age is not added in
place. -/
theorem people_rebuilt_for_town :
    (livePeople.map ReportedColumn.name).Nodup ∧
    (Plan.make {} keyedPeople (some livePeople)).course = .rebuild ∧
    (∀ difference, IsDifference keyedPeople livePeople difference ↔ difference = .removed "town") ∧
    (Plan.make {} keyedPeople (some livePeople)).added = [] := by
  have hnames : (livePeople.map ReportedColumn.name).Nodup := by decide
  have hdistinct : ∀ columns ∈ some livePeople, (columns.map ReportedColumn.name).Nodup := by
    rintro columns ⟨⟩
    exact hnames
  have hreasons : (Plan.make {} keyedPeople (some livePeople)).reasons = [.removed "town"] := by
    decide +kernel
  obtain ⟨-, -, -, -, hrebuild, hdifferences, hadded, -⟩ :=
    plan_follows_differences {} keyedPeople (some livePeople) hdistinct
  have hcourse := hrebuild.mp (by rw [hreasons]; exact List.cons_ne_nil _ _)
  refine ⟨hnames, hcourse, fun difference => ?_, ?_⟩
  · have hdifference := hdifferences difference
    rw [hreasons, List.mem_singleton] at hdifference
    simpa using hdifference.symm
  · rw [hadded, hcourse]
    rfl

end DocTables.Migration
