import DocTables.Proofs.Json.WellFormed
import DocTables.Proofs.Migration.Classification
import DocTables.Proofs.Schema.DefinitionRoundTrip

/-!
# Columns that can be added in place

SQLite adds a column to a table with rows only if it can give all of these rows the same value in
it: the column excludes neither repeated values nor, with `NULL` for its default, the value that all
rows would get.  `IsAcceptedAddition` reads this off the text of the statement.

A plan decides by the column, and looks whether there is a default but not which one.  So what it
adds is accepted just if no column that is missing excludes `NULL` and has it for its default
(`additions_accepted_iff`); in a document's value that default is `null`.
-/

namespace DocTables

/-! ## What is accepted -/

/-- Whether rows that are there can be given the column. -/
structure DefinedColumn.FitsRows (column : DefinedColumn) : Prop where
  /-- Repeated values are not excluded. -/
  unique : column.unique = false
  /-- The column is not the primary key. -/
  primaryKey : column.primaryKey = false
  /-- If `NULL` is excluded, there is a default and it is something else. -/
  default : column.notNull = true →
    ∃ literal, column.default = some literal ∧ literal ≠ .word "NULL"

/-- Whether the text is a statement that adds a column, and SQLite accepts it on a table with
rows. -/
def IsAcceptedAddition (sql : String) : Prop :=
  ∃ table column, DefinedTable.ofAddition? sql = some (table, column) ∧ column.FitsRows

/-- The column of a property excludes `NULL` and has it for its default. -/
def Property.ExcludesItsDefault (property : Property) : Prop :=
  property.required = true ∧
    ∃ value, property.default = some value ∧ (Scalar.ofJson value).defaultLiteral = "NULL"

/-- The default of a property is written as `NULL` just if it is `null`. -/
lemma defaultLiteral_eq_null_iff {value : Json} (h : value.WellFormed) :
    (Scalar.ofJson value).defaultLiteral = "NULL" ↔ value = .null := by
  have hnumber : ¬ IsNumberText "NULL".toList := fun hnumber =>
    absurd (hnumber.2 'N' (by decide)) (by decide)
  rw [← DefinedTable.defined_eq_null_iff]
  refine ⟨fun hnull => ?_, fun hnull => hnull ▸ rfl⟩
  cases h with
  | null => rfl
  | bool b => cases b <;> exact absurd (DefaultLiteral.word.inj hnull) (by decide)
  | @number n hn =>
    rw [Scalar.ofJson] at hnull
    split at hnull
    · rename_i i _
      have htext : toString i = "NULL" := DefaultLiteral.word.inj hnull
      exact absurd (htext ▸ (isNumeral_toString i).isNumberText) hnumber
    · obtain ⟨text, htext⟩ := Scalar.numberLayout.exists_text? hn.isFinite_toBinary64
      have hliteral : text = "NULL" := by
        have hword := DefaultLiteral.word.inj hnull
        rwa [Scalar.literal, htext] at hword
      exact absurd (hliteral ▸ (DecimalLayout.isNumeral_of_text? rfl htext).isNumberText) hnumber
  | _ => cases hnull

namespace Migration

variable {options : MigrationOptions} {table : String} {properties : PropertySet} {desired : Table}
  {column : Column}

/-- The columns that a plan does not rule out. -/
lemma isAddable_iff : column.isAddable = true ↔
    column.unique = false ∧ column.primaryKey = false ∧
      (column.notNull = true → column.default ≠ none) := by
  rw [← Bool.not_eq_false, isAddable_eq_false_iff]
  simp only [not_or, not_and, Bool.not_eq_true, ne_eq]

/-- The statement that adds a column is read as the column.  If the plan does not rule the column
out, it is accepted unless the column excludes `NULL` and has it for its default. -/
lemma isAcceptedAddition_iff (htable : isPlainName table = true)
    (hcolumn : isPlainName column.name = true) (haddable : column.isAddable = true) :
    IsAcceptedAddition (MigrationStatement.addColumn table column).sql ↔
      ¬ (column.notNull = true ∧ column.defaultLiteral = some "NULL") := by
  have hread : DefinedTable.ofAddition? (MigrationStatement.addColumn table column).sql =
      some (table, column.defined) := DefinedTable.ofAddition?_text htable hcolumn
  constructor
  · rintro ⟨name, defined, hdefined, hfits⟩ ⟨hnotNull, hnull⟩
    obtain ⟨-, rfl⟩ := Prod.mk.inj (Option.some.inj (hread.symm.trans hdefined))
    obtain ⟨literal, hliteral, hne⟩ := hfits.default hnotNull
    obtain ⟨value, hvalue, rfl⟩ := Option.map_eq_some_iff.mp hliteral
    rw [Column.defaultLiteral, hvalue, Option.map_some, Option.some.injEq] at hnull
    exact hne ((DefinedTable.defined_eq_null_iff value).mpr hnull)
  · intro hsound
    obtain ⟨hunique, hkey, hdefault⟩ := isAddable_iff.mp haddable
    refine ⟨_, _, hread, hunique, hkey, fun hnotNull => ?_⟩
    obtain ⟨value, hvalue⟩ := Option.ne_none_iff_exists'.mp (hdefault hnotNull)
    refine ⟨value.defined, by rw [Column.defined, hvalue]; rfl, fun hnull => hsound ⟨hnotNull, ?_⟩⟩
    rw [Column.defaultLiteral, hvalue, Option.map_some,
      (DefinedTable.defined_eq_null_iff value).mp hnull]

/-! ## What is added -/

/-- A plan adds columns in place only if nothing calls for a rebuild, and then all that are
missing. -/
lemma addColumn_mem_steps_iff {live : Option (List ReportedColumn)} {name : String} :
    .addColumn name column ∈ (Plan.make options desired live).steps ↔
      (Plan.make options desired live).course = .alter ∧ name = desired.name ∧
        column ∈ missingColumns desired (live.getD []) := by
  obtain ⟨indexed, hindexes⟩ := indexSteps_eq options desired
  cases live with
  | none => simp [Plan.make, hindexes]
  | some columns =>
    obtain ⟨course, hmake, -⟩ := make_cases options desired columns
    rw [hmake, hindexes]
    cases course <;> simp [courseSteps, and_comm, eq_comm]

/-- A column that is missing is declared, and no column that is there has its name. -/
lemma mem_missingColumns_iff {live : List ReportedColumn} :
    column ∈ missingColumns desired live ↔
      column ∈ desired.columns ∧ ∀ current ∈ live, current.name ≠ column.name := by
  simp only [missingColumns, List.mem_filter, decide_eq_true_eq, List.mem_map, not_exists, not_and]

/-- A missing column that is ruled out calls for a rebuild. -/
lemma rebuild_of_not_addable {live : List ReportedColumn} (hcolumn : column ∈ desired.columns)
    (hmissing : ∀ current ∈ live, current.name ≠ column.name) (h : column.isAddable = false) :
    (Plan.make options desired (some live)).course = .rebuild ∧
      .notAddable column.name ∈ (Plan.make options desired (some live)).reasons := by
  have hdifference := notAddable_mem_differences hcolumn hmissing h
  obtain ⟨course, hmake, hcases⟩ := make_cases options desired live
  rw [hmake]
  rcases hcases with ⟨rfl, -⟩ | ⟨-, hsame, -⟩ | ⟨-, hsame, -⟩
  · exact ⟨rfl, hdifference⟩
  · rw [hsame] at hdifference
    cases hdifference
  · rw [hsame] at hdifference
    cases hdifference

/-- What is added in place was not ruled out. -/
lemma isAddable_of_alter {live : Option (List ReportedColumn)}
    (hcourse : (Plan.make options desired live).course = .alter)
    (hcolumn : column ∈ missingColumns desired (live.getD [])) : column.isAddable = true := by
  cases live with
  | none => cases hcourse
  | some columns =>
    rw [Option.getD_some] at hcolumn
    obtain ⟨hdeclared, hmissing⟩ := mem_missingColumns_iff.mp hcolumn
    by_contra hnot
    have hrebuild : (Plan.make options desired (some columns)).course = .rebuild :=
      (rebuild_of_not_addable hdeclared hmissing ((Bool.not_eq_true _).mp hnot)).1
    rw [hrebuild] at hcourse
    cases hcourse

/-- The columns that a plan adds in place are neither unique nor the primary key, and have a default
if they exclude `NULL`; a missing column of which this is not true is a reason for a rebuild.  But
the default may be `NULL`: all additions are accepted just if no missing property, where columns are
added in place, excludes its default. -/
theorem additions_accepted_iff (hdesired : Table.ofProperties table properties = .ok desired)
    (options : MigrationOptions) (live : Option (List ReportedColumn)) :
    ((∀ name column, .addColumn name column ∈ (Plan.make options desired live).steps →
        IsAcceptedAddition (MigrationStatement.addColumn name column).sql) ↔
      ((Plan.make options desired live).course = .alter → ∀ property ∈ properties.toList,
        (∀ current ∈ live.getD [], current.name ≠ property.name) → ¬ property.ExcludesItsDefault)) ∧
    (∀ name column, .addColumn name column ∈ (Plan.make options desired live).steps →
      ∃ defined, DefinedTable.ofAddition? (MigrationStatement.addColumn name column).sql =
          some (table, defined) ∧
        defined.unique = false ∧ defined.primaryKey = false ∧
        (defined.notNull = true → defined.default ≠ none)) ∧
    ∀ columns, live = some columns → ∀ property ∈ properties.toList,
      (∀ current ∈ columns, current.name ≠ property.name) →
      (property.unique = true ∨ property.primaryKey = true ∨
        property.required = true ∧ property.default = none) →
      (Plan.make options desired live).course = .rebuild ∧
        .notAddable property.name ∈ (Plan.make options desired live).reasons := by
  obtain ⟨rfl, htable, hplain⟩ := DefinedTable.eq_and_plain_of_ofProperties hdesired
  have hcolumn : ∀ property ∈ properties.toList, property.column ∈ properties.columns :=
    fun property hproperty => List.mem_map_of_mem hproperty
  have hnull : ∀ property : Property, property.ExcludesItsDefault ↔
      property.column.notNull = true ∧ property.column.defaultLiteral = some "NULL" := by
    intro property
    simp only [Property.ExcludesItsDefault, Property.column, Column.defaultLiteral, Option.map_map,
      Option.map_eq_some_iff, Function.comp_apply]
  refine ⟨⟨fun haccepted hcourse property hproperty hmissing => ?_,
    fun hsound name column hstep => ?_⟩, fun name column hstep => ?_, ?_⟩
  · have hmem : property.column ∈ missingColumns ⟨table, properties.columns⟩ (live.getD []) :=
      mem_missingColumns_iff.mpr ⟨hcolumn property hproperty, hmissing⟩
    rw [hnull, ← isAcceptedAddition_iff htable (hplain _ (hcolumn property hproperty))
      (isAddable_of_alter hcourse hmem)]
    exact haccepted _ _ (addColumn_mem_steps_iff.mpr ⟨hcourse, rfl, hmem⟩)
  · obtain ⟨hcourse, rfl, hmem⟩ := addColumn_mem_steps_iff.mp hstep
    obtain ⟨hdeclared, hmissing⟩ := mem_missingColumns_iff.mp hmem
    obtain ⟨property, hproperty, rfl⟩ := List.mem_map.mp hdeclared
    rw [isAcceptedAddition_iff htable (hplain _ hdeclared) (isAddable_of_alter hcourse hmem),
      ← hnull]
    exact hsound hcourse property hproperty hmissing
  · obtain ⟨hcourse, rfl, hmem⟩ := addColumn_mem_steps_iff.mp hstep
    obtain ⟨hdeclared, -⟩ := mem_missingColumns_iff.mp hmem
    obtain ⟨hunique, hkey, hdefault⟩ := isAddable_iff.mp (isAddable_of_alter hcourse hmem)
    refine ⟨_, DefinedTable.ofAddition?_text htable (hplain _ hdeclared), hunique, hkey, ?_⟩
    intro hnotNull
    rw [Column.defined, Ne, Option.map_eq_none_iff]
    exact hdefault hnotNull
  · rintro columns rfl property hproperty hmissing hruled
    have hmissing : ∀ current ∈ columns, current.name ≠ property.column.name := hmissing
    refine rebuild_of_not_addable (hcolumn property hproperty) hmissing ?_
    rw [isAddable_eq_false_iff, Property.column, Option.map_eq_none_iff]
    exact hruled

/-- People have a name, and must have a nick, which has a default. -/
def nickProperties (default : Json) : PropertySet where
  toList := [.plain "name" .string,
    { Property.plain "nick" .string with default := some default, required := true }]
  names_valid := List.forall_mem_cons.mpr
    ⟨show isPlainName "name" = true by decide +kernel,
      List.forall_mem_singleton.mpr (show isPlainName "nick" = true by decide +kernel)⟩
  names_nodup := show ["name", "nick"].Nodup by decide
  primaryKeys_le_one := show ([] : List Property).length ≤ 1 from Nat.zero_le 1

/-- The table of people, which has the names. -/
def namesOnly : List ReportedColumn := [⟨"name", "TEXT", false, none, false, false⟩]

/-- Nicks are added to a table that has the names, if everyone is `"anon"` by default. -/
theorem nick_addition_accepted :
    (Plan.make {} ⟨"people", (nickProperties (.string "anon")).columns⟩
      (some namesOnly)).course = .alter ∧
    ∀ name column, .addColumn name column ∈
        (Plan.make {} ⟨"people", (nickProperties (.string "anon")).columns⟩
          (some namesOnly)).steps →
      IsAcceptedAddition (MigrationStatement.addColumn name column).sql := by
  have hdesired : Table.ofProperties "people" (nickProperties (.string "anon")) =
      .ok ⟨"people", (nickProperties (.string "anon")).columns⟩ := by
    have hplain : isPlainName "people" = true := by decide +kernel
    rw [Table.ofProperties, if_pos hplain]
  refine ⟨by decide +kernel, (additions_accepted_iff hdesired {} (some namesOnly)).1.mpr ?_⟩
  rintro - property hproperty - ⟨hrequired, value, hvalue, hnull⟩
  rcases List.mem_pair.mp hproperty with rfl | rfl
  · cases hrequired
  · obtain rfl : .string "anon" = value := Option.some.inj hvalue
    cases (defaultLiteral_eq_null_iff (.string _)).mp hnull

/-- If the default is `null`, nicks are added in place all the same, without a reason for a rebuild,
and the statement is not accepted. -/
theorem null_nick_addition_refused :
    let plan := Plan.make {} ⟨"people", (nickProperties .null).columns⟩ (some namesOnly)
    plan.reasons = [] ∧ ∃ name column, .addColumn name column ∈ plan.steps ∧
      (MigrationStatement.addColumn name column).sql =
        "ALTER TABLE people ADD COLUMN nick TEXT NOT NULL DEFAULT NULL" ∧
      ¬ IsAcceptedAddition (MigrationStatement.addColumn name column).sql := by
  refine ⟨by decide +kernel, "people",
    { Property.plain "nick" .string with default := some .null, required := true }.column,
    by decide +kernel, by decide +kernel, fun haccepted => ?_⟩
  exact (isAcceptedAddition_iff (by decide +kernel) (by decide +kernel) (by decide +kernel)).mp
    haccepted ⟨rfl, rfl⟩

end Migration

end DocTables
