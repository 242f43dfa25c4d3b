import DocTables.Proofs.Migration.Recovery
import Mathlib.Data.List.Pairwise

/-!
# Which columns keep their values

The engine takes two names that differ only in the case of ASCII letters for the same column.  A
migration compares names exactly: where a live column is looked for among the declared ones, where a
declared column is looked for among the live ones, and where the statement that copies rows decides
whether to select a column or to fill it.  So a column keeps its values when its declaration spells
its name as the table does, and it is emptied by a rebuild when the spelling differs
(`keeps_iff_same_spelling`).
-/

namespace DocTables

/-- Ignoring case is symmetric. -/
lemma Text.equalIgnoringAsciiCase_comm (s t : String) :
    equalIgnoringAsciiCase s t = equalIgnoringAsciiCase t s := by
  rw [Bool.eq_iff_iff, equalIgnoringAsciiCase, equalIgnoringAsciiCase, beq_iff_eq,
    beq_iff_eq, eq_comm]

@[simp] lemma Text.equalIgnoringAsciiCase_self (s : String) : equalIgnoringAsciiCase s s = true :=
  beq_self_eq_true _

namespace Migration

variable {options : MigrationOptions} {table : String} {properties : PropertySet} {desired : Table}
  {live : List ReportedColumn} {current : ReportedColumn} {column : Column}

/-! ## Plans -/

/-- The reasons of a plan are the differences. -/
lemma reasons_make (options : MigrationOptions) (desired : Table) (live : List ReportedColumn) :
    (Plan.make options desired (some live)).reasons = differences desired live := by
  rw [Plan.make]
  cases hdifferences : differences desired live with
  | cons first rest => rfl
  | nil =>
    cases additions desired live <;> rfl

/-- No difference of a declared column is that a live one was removed. -/
lemma removed_not_mem_declaredDifferences (name : String) :
    .removed name ∉ declaredDifferences live column := by
  unfold declaredDifferences columnDifferences
  split
  · simp only [List.mem_append, List.mem_ite_nil_left, List.mem_singleton, reduceCtorEq, and_false,
      or_false, not_false_iff]
  · simp only [List.mem_ite_nil_left, List.mem_singleton, reduceCtorEq, and_false, not_false_iff]

/-- A live column is taken for removed if no declared column has just its name. -/
lemma removed_mem_reasons_iff (hcurrent : current ∈ live) :
    .removed current.name ∈ (Plan.make options desired (some live)).reasons ↔
      current.name ∉ desired.columns.map Column.name := by
  have hcolumn : (desired.column? current.name).isNone = true ↔
      current.name ∉ desired.columns.map Column.name := by
    rw [Table.column?, Option.isNone_iff_eq_none, List.find?_eq_none]
    simp only [beq_iff_eq, List.mem_map, not_exists, not_and]
  rw [reasons_make, differences, List.mem_append, List.mem_flatMap, ← hcolumn]
  constructor
  · rintro (hremoved | ⟨column, -, hdeclared⟩)
    · obtain ⟨other, hother, hname⟩ := List.mem_map.mp hremoved
      rw [← Difference.removed.inj hname]
      exact (List.mem_filter.mp hother).2
    · exact absurd hdeclared (removed_not_mem_declaredDifferences _)
  · intro hnone
    exact .inl (List.mem_map.mpr ⟨current, List.mem_filter.mpr ⟨hcurrent, hnone⟩, rfl⟩)

/-! ## Copies -/

/-- A declared column is selected from the source if a column there has just its name. -/
lemma column_mem_ofProperties_iff {source target name origin : String} {present : List String} :
    (name, .column origin) ∈ (RowCopy.ofProperties source target properties present).columns ↔
      origin = name ∧ name ∈ properties.names ∧ name ∈ present := by
  rw [RowCopy.ofProperties, PropertySet.names]
  simp only [List.mem_map]
  constructor
  · rintro ⟨property, hproperty, hentry⟩
    obtain ⟨rfl, horigin⟩ := Prod.mk.inj hentry
    split at horigin
    · rename_i hpresent
      exact ⟨(CopySource.column.inj horigin).symm, ⟨property, hproperty, rfl⟩, hpresent⟩
    · cases horigin
  · rintro ⟨rfl, ⟨property, hproperty, rfl⟩, hpresent⟩
    exact ⟨property, hproperty, by rw [if_pos hpresent]⟩

/-! ## Columns that keep their values -/

/-- The engine can tell two columns apart. -/
def Apart (first second : ReportedColumn) : Prop :=
  Text.equalIgnoringAsciiCase first.name second.name = false

instance : Std.Symm Apart where
  symm first second h := (Text.equalIgnoringAsciiCase_comm second.name first.name).trans h

/-- A live column keeps its values as a declared column: the plan does not take it for removed, and
if the table is rebuilt, the rows are copied with a value for the declared column that is selected
from a column which to the engine is the live one. -/
def Keeps (options : MigrationOptions) (desired : Table) (properties : PropertySet)
    (live : List ReportedColumn) (current : ReportedColumn) (column : Column) : Prop :=
  .removed current.name ∉ (Plan.make options desired (some live)).reasons ∧
  ((Plan.make options desired (some live)).course = .rebuild →
    ∃ origin, (column.name, .column origin) ∈
        (RowCopy.ofProperties desired.name (options.shadowName desired.name) properties
          (live.map ReportedColumn.name)).columns ∧
      Text.equalIgnoringAsciiCase origin current.name = true)

/-- Among columns that the engine can tell apart, only the live column itself can have the name of a
declared column that to the engine is the same. -/
lemma mem_names_iff_of_distinct (hdistinct : live.Pairwise Apart) (hcurrent : current ∈ live)
    (hsame : Text.equalIgnoringAsciiCase current.name column.name = true) :
    column.name ∈ live.map ReportedColumn.name ↔ current.name = column.name := by
  constructor
  · intro hmem
    obtain ⟨other, hother, hname⟩ := List.mem_map.mp hmem
    by_contra hne
    have hother' : current ≠ other := fun heq => hne (heq ▸ hname)
    have hapart : Text.equalIgnoringAsciiCase current.name other.name = false :=
      hdistinct.forall hcurrent hother hother'
    rw [hname, hsame] at hapart
    cases hapart
  · intro hname
    exact hname ▸ List.mem_map_of_mem hcurrent

/-- A live column that to the engine is a declared one keeps its values just if its name is spelled
as it is declared, or there is no rebuild and its own spelling is declared as well. -/
theorem keeps_iff_same_spelling (options : MigrationOptions)
    (hdesired : Table.ofProperties table properties = .ok desired) (hdistinct : live.Pairwise Apart)
    (hcurrent : current ∈ live) (hcolumn : column ∈ desired.columns)
    (hsame : Text.equalIgnoringAsciiCase current.name column.name = true) :
    Keeps options desired properties live current column ↔
      current.name = column.name ∨ current.name ∈ properties.names ∧
        (Plan.make options desired (some live)).course ≠ .rebuild := by
  have hnames : desired.columns.map Column.name = properties.names := by
    unfold Table.ofProperties at hdesired
    split at hdesired
    · rw [← Except.ok.inj hdesired, PropertySet.columns, PropertySet.names, List.map_map]
      rfl
    · cases hdesired
  have hdeclared : column.name ∈ properties.names := hnames ▸ List.mem_map_of_mem hcolumn
  have hselected : (∃ origin, (column.name, .column origin) ∈
        (RowCopy.ofProperties desired.name (options.shadowName desired.name) properties
          (live.map ReportedColumn.name)).columns ∧
      Text.equalIgnoringAsciiCase origin current.name = true) ↔ current.name = column.name := by
    simp only [column_mem_ofProperties_iff, mem_names_iff_of_distinct hdistinct hcurrent hsame]
    constructor
    · rintro ⟨origin, ⟨-, -, hname⟩, -⟩
      exact hname
    · intro hname
      exact ⟨column.name, ⟨rfl, hdeclared, hname⟩, hname ▸ Text.equalIgnoringAsciiCase_self _⟩
  rw [Keeps, removed_mem_reasons_iff hcurrent, hnames, not_not, hselected]
  constructor
  · rintro ⟨hmem, hrebuild⟩
    by_cases hcourse : (Plan.make options desired (some live)).course = .rebuild
    · exact .inl (hrebuild hcourse)
    · exact .inr ⟨hmem, hcourse⟩
  · rintro (hname | ⟨hmem, hcourse⟩)
    · exact ⟨hname ▸ hdeclared, fun _ => hname⟩
    · exact ⟨hmem, fun hrebuild => absurd hrebuild hcourse⟩

/-- The live column of the names of people, as it may be spelled. -/
def spelled (name : String) : ReportedColumn := ⟨name, "TEXT", false, none, false, false⟩

/-- The names of people are kept where they are spelled as declared, whatever other column calls for
a rebuild. -/
theorem name_kept_as_spelled :
    (Plan.make {} ⟨"people", nameProperties.columns⟩
      (some [spelled "name", spelled "town"])).course = .rebuild ∧
    Keeps {} ⟨"people", nameProperties.columns⟩ nameProperties [spelled "name", spelled "town"]
      (spelled "name") (Property.plain "name" .string).column := by
  have hdesired : Table.ofProperties "people" nameProperties =
      .ok ⟨"people", nameProperties.columns⟩ := by
    have hplain : isPlainName "people" = true := by decide +kernel
    rw [Table.ofProperties, if_pos hplain]
  have hdistinct : [spelled "name", spelled "town"].Pairwise Apart :=
    List.pairwise_pair.mpr (by unfold Apart; decide +kernel)
  refine ⟨by decide +kernel, ?_⟩
  exact (keeps_iff_same_spelling {} hdesired hdistinct List.mem_cons_self
    (List.mem_singleton_self _) (Text.equalIgnoringAsciiCase_self _)).mpr (.inl rfl)

/-- A table of two people whose column is spelled with a capital letter. -/
def capitalized : StoredTable where
  name := "people"
  columns := [.plain "Name" .text]
  rows := [[("Name", .string "Ada")], [("Name", .string "Alan")]]

/-- Declared in small letters, the names of two people are taken for removed; a migration ends well
with two rows copied and no name left in them. -/
theorem names_lost_by_spelling :
    Text.equalIgnoringAsciiCase "Name" "name" = true ∧
    ¬ Keeps {} ⟨"people", nameProperties.columns⟩ nameProperties [spelled "Name"] (spelled "Name")
      (Property.plain "name" .string).column ∧
    (RowCopy.ofProperties "people" "people_shadow" nameProperties ["Name"]).text =
      "INSERT INTO people_shadow (name) SELECT NULL FROM people" ∧
    let migrated := (migrate {} "people" nameProperties).run Database.storage ⟨[capitalized], []⟩
    migrated.1.toOption = some (.rebuilt 2) ∧
      (migrated.2.table? "people").map (fun stored =>
        stored.rows.map (List.map fun entry => (entry.1, entry.2.isNull))) =
          some [[("name", true)], [("name", true)]] := by
  refine ⟨by decide +kernel, fun hkeeps => ?_, by decide +kernel, by decide +kernel⟩
  have hreason : Difference.removed "Name" ∈ (Plan.make {} ⟨"people", nameProperties.columns⟩
      (some [spelled "Name"])).reasons := by
    decide +kernel
  exact hkeeps.1 hreason

end Migration

end DocTables
