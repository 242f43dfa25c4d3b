import DocTables.Proofs.Migration.Addressing
import DocTables.Proofs.Migration.Recovery
import Mathlib.Data.List.Nodup

/-!
# Indexes after migrations

The name of an index joins the names of its table and its column with an underscore, which both may
have in them: the column `group_id` of `user` and the column `id` of `user_group` have an index of
the same name.  A database keeps one index of a name, and the creation of another one is passed over
without a failure.

`WellIndexed` is the invariant of the indexes of a database under migrations of declared tables,
where none of these is the shadow of another one: each index has the name that is made for it, was
asked for, and is the only one of its name.  It follows that every index that was asked for is there
just if no two of them have the same name (`indexes_there_iff_names_differ`).
-/

namespace DocTables

/-! ## Names of indexes -/

/-- Where one of two texts with an underscore in them goes on after the other one ends, both are cut
at the same underscore, or what comes in between ends with one. -/
lemma eq_or_exists_middle {first last first' last' rest : List Char}
    (hfirst : first' = first ++ rest) (hlast : '_' :: last = rest ++ '_' :: last') :
    (first = first' ∧ last = last') ∨
      ∃ middle, first' = first ++ '_' :: middle ∧ last = middle ++ '_' :: last' := by
  cases rest with
  | nil =>
    rw [List.append_nil] at hfirst
    exact .inl ⟨hfirst.symm, (List.cons.inj hlast).2⟩
  | cons c middle =>
    obtain ⟨rfl, hmiddle⟩ := List.cons.inj hlast
    exact .inr ⟨middle, hfirst, hmiddle⟩

/-- The characters of a text with an underscore in it. -/
lemma toList_underscore (first last : String) :
    (first ++ "_" ++ last).toList = first.toList ++ '_' :: last.toList := by
  simp only [String.toList_append, List.append_assoc]
  rfl

/-- Two indexes have the same name just if they are on the same column, or the name of one table
goes on where the other ends, up to an underscore in the name of the column. -/
lemma indexName_eq_iff {table column other column' : String} :
    indexName table column = indexName other column' ↔
      (table = other ∧ column = column') ∨
        (∃ middle, other = table ++ "_" ++ middle ∧ column = middle ++ "_" ++ column') ∨
        ∃ middle, table = other ++ "_" ++ middle ∧ column' = middle ++ "_" ++ column := by
  have hexists : ∀ table column other column' : String,
      (∃ middle, other.toList = table.toList ++ '_' :: middle ∧
        column.toList = middle ++ '_' :: column'.toList) →
      ∃ middle, other = table ++ "_" ++ middle ∧ column = middle ++ "_" ++ column' := by
    rintro table column other column' ⟨middle, hother, hcolumn⟩
    refine ⟨String.ofList middle, String.toList_inj.mp ?_, String.toList_inj.mp ?_⟩
    · rw [toList_underscore, String.toList_ofList, hother]
    · rw [toList_underscore, String.toList_ofList, hcolumn]
  rw [indexName, indexName, String.append_left_inj]
  constructor
  · intro h
    have hlists := congrArg String.toList h
    rw [toList_underscore, toList_underscore] at hlists
    rcases List.append_eq_append_iff.mp hlists with
      ⟨rest, hother, hcolumn⟩ | ⟨rest, htable, hcolumn⟩
    · rcases eq_or_exists_middle hother hcolumn with ⟨hsame, hsame'⟩ | hmiddle
      · exact .inl ⟨String.toList_inj.mp hsame, String.toList_inj.mp hsame'⟩
      · exact .inr (.inl (hexists _ _ _ _ hmiddle))
    · rcases eq_or_exists_middle htable hcolumn with ⟨hsame, hsame'⟩ | hmiddle
      · exact .inl ⟨String.toList_inj.mp hsame.symm, String.toList_inj.mp hsame'.symm⟩
      · exact .inr (.inr (hexists _ _ _ _ hmiddle))
  · rintro (⟨rfl, rfl⟩ | ⟨middle, rfl, rfl⟩ | ⟨middle, rfl, rfl⟩)
    · rfl
    · simp only [String.append_assoc]
    · simp only [String.append_assoc]

/-! ## Indexes of a database -/

namespace Database

/-- There is an index on a column of a table. -/
def HasIndex (database : Database) (table column : String) : Prop :=
  ∃ index ∈ database.indexes, index.table = table ∧ index.column = column

/-- The indexes of a database after a statement that succeeded. -/
def indexesAfter (indexes : List StoredIndex) : MigrationStatement → List StoredIndex
  | .dropTable name => indexes.filter fun index => index.table != name
  | .renameTable source target => indexes.map fun index =>
    if index.table = source then { index with table := target } else index
  | .createIndex table column =>
    if indexes.any fun index => index.name == indexName table column then indexes
    else indexes ++ [⟨indexName table column, table, column⟩]
  | _ => indexes

/-- A statement that succeeds does this to the indexes. -/
lemma indexes_of_storage {statement : MigrationStatement} {reply : Reply} {before after : Database}
    (h : storage statement before = (.ok reply, after)) :
    after.indexes = indexesAfter before.indexes statement := by
  have happly := apply_eq_ok h
  cases statement with
  | findTable | tableInfo | indexList | indexInfo =>
    cases happly
    rfl
  | readAll | createTable | addColumn | copyRows | dropTable | renameTable =>
    simp only [apply] at happly
    split at happly <;> cases happly
    rfl
  | createIndex table column =>
    simp only [apply] at happly
    split at happly
    · split at happly
      · rename_i hpresent
        cases happly
        exact (if_pos hpresent).symm
      · rename_i habsent
        cases happly
        exact (if_neg habsent).symm
    · cases happly

end Database

namespace Migration

open Dialogue

variable {options : MigrationOptions} {table column : String} {properties : PropertySet}
  {desired : Table} {live : List ReportedColumn} {declared : List (String × PropertySet)}
  {indexes : List StoredIndex} {database : Database}

/-- The columns on which declared properties ask for an index, each after its table. -/
def indexedColumns (declared : List (String × PropertySet)) : List (String × String) :=
  declared.flatMap fun entry => entry.2.indexNames.map fun column => (entry.1, column)

/-- A declared table asks for the indexes of its properties. -/
lemma mem_indexedColumns_iff : (table, column) ∈ indexedColumns declared ↔
    ∃ properties, (table, properties) ∈ declared ∧ column ∈ properties.indexNames := by
  rw [indexedColumns, List.mem_flatMap]
  constructor
  · rintro ⟨⟨name, properties⟩, hentry, hcolumn⟩
    obtain ⟨_, hmem, heq⟩ := List.mem_map.mp hcolumn
    obtain ⟨rfl, rfl⟩ := Prod.mk.inj heq
    exact ⟨properties, hentry, hmem⟩
  · rintro ⟨properties, hentry, hmem⟩
    exact ⟨(table, properties), hentry, List.mem_map_of_mem hmem⟩

/-- Each index has its own name, which is the one made for it, and was asked for. -/
structure WellIndexed (declared : List (String × PropertySet)) (indexes : List StoredIndex) :
    Prop where
  named : ∀ index ∈ indexes, index.name = indexName index.table index.column
  asked : ∀ index ∈ indexes, (index.table, index.column) ∈ indexedColumns declared
  nodup : (indexes.map StoredIndex.name).Nodup

/-- No index has a table that was not declared. -/
lemma WellIndexed.table_ne {name : String} (h : WellIndexed declared indexes)
    (hname : ∀ entry ∈ declared, name ≠ entry.1) : ∀ index ∈ indexes, index.table ≠ name := by
  intro index hindex heq
  obtain ⟨properties, hentry, -⟩ := mem_indexedColumns_iff.mp (h.asked index hindex)
  exact hname _ hentry heq.symm

/-- An index of one name is of one table and one column. -/
lemma WellIndexed.eq_of_name_eq {first second : StoredIndex} (h : WellIndexed declared indexes)
    (hfirst : first ∈ indexes) (hsecond : second ∈ indexes) (hname : first.name = second.name) :
    first = second :=
  List.inj_on_of_nodup_map h.nodup hfirst hsecond hname

/-- Fewer indexes are still such. -/
lemma WellIndexed.filter (h : WellIndexed declared indexes) (keep : StoredIndex → Bool) :
    WellIndexed declared (indexes.filter keep) where
  named := fun index hindex => h.named index (List.mem_filter.mp hindex).1
  asked := fun index hindex => h.asked index (List.mem_filter.mp hindex).1
  nodup := h.nodup.sublist (List.Sublist.map _ List.filter_sublist)

/-- An index that is asked for is there after its creation, or another one of its name is; none is
lost. -/
lemma WellIndexed.createIndex (h : WellIndexed declared indexes)
    (hasked : (table, column) ∈ indexedColumns declared) :
    WellIndexed declared (Database.indexesAfter indexes (.createIndex table column)) ∧
      (∀ index ∈ indexes, index ∈ Database.indexesAfter indexes (.createIndex table column)) ∧
      ∃ index ∈ Database.indexesAfter indexes (.createIndex table column),
        index.name = indexName table column := by
  simp only [Database.indexesAfter]
  split
  · rename_i hpresent
    obtain ⟨index, hindex, hname⟩ := List.any_eq_true.mp hpresent
    exact ⟨h, fun _ hmem => hmem, index, hindex, beq_iff_eq.mp hname⟩
  · rename_i habsent
    have hnew : ∀ index ∈ indexes, index.name ≠ indexName table column := by
      intro index hindex hname
      exact habsent (List.any_eq_true.mpr ⟨index, hindex, beq_iff_eq.mpr hname⟩)
    refine ⟨⟨?_, ?_, ?_⟩, fun index hindex => List.mem_append_left _ hindex, ?_⟩
    · exact List.forall_mem_append.mpr ⟨h.named, List.forall_mem_singleton.mpr rfl⟩
    · exact List.forall_mem_append.mpr ⟨h.asked, List.forall_mem_singleton.mpr hasked⟩
    · rw [List.map_append, List.nodup_append]
      refine ⟨h.nodup, List.nodup_singleton _, ?_⟩
      intro name hname last hlast
      obtain ⟨index, hindex, rfl⟩ := List.mem_map.mp hname
      rw [List.mem_singleton.mp hlast]
      exact hnew index hindex
    · exact ⟨_, List.mem_append_right _ (List.mem_singleton_self _), rfl⟩

/-! ## Statements and programs -/

/-- What a statement of a migration of a declared table keeps: the invariant, and the indexes of all
other tables. -/
lemma WellIndexed.after {statement : MigrationStatement} (h : WellIndexed declared indexes)
    (hdeclared : (table, properties) ∈ declared)
    (hshadow : ∀ entry ∈ declared, options.shadowName table ≠ entry.1)
    (hstatement : Addressed options table properties statement) :
    WellIndexed declared (Database.indexesAfter indexes statement) ∧
      ∀ index ∈ indexes, index.table ≠ table → index ∈ Database.indexesAfter indexes statement := by
  have hother := h.table_ne hshadow
  cases hstatement with
  | @dropTable name hname =>
    refine ⟨h.filter _, fun index hindex hne => List.mem_filter.mpr ⟨hindex, ?_⟩⟩
    rw [bne_iff_ne]
    rcases hname with rfl | rfl
    · exact hne
    · exact hother index hindex
  | renameTable =>
    have hsame : Database.indexesAfter indexes (.renameTable (options.shadowName table) table) =
        indexes := by
      refine (List.map_congr_left fun index hindex => ?_).trans (List.map_id _)
      rw [if_neg (hother index hindex), id]
    rw [hsame]
    exact ⟨h, fun index hindex _ => hindex⟩
  | createIndex hcolumn =>
    have hasked := mem_indexedColumns_iff.mpr ⟨properties, hdeclared, hcolumn⟩
    obtain ⟨hafter, hkept, -⟩ := h.createIndex hasked
    exact ⟨hafter, fun index hindex _ => hkept index hindex⟩
  | _ => exact ⟨h, fun index hindex _ => hindex⟩

/-- So does a program that only sends such statements. -/
lemma KeepsTo.wellIndexed {α : Type} {program : Migrating α}
    (hprogram : KeepsTo options table properties program)
    (hdeclared : (table, properties) ∈ declared)
    (hshadow : ∀ entry ∈ declared, options.shadowName table ≠ entry.1)
    (h : WellIndexed declared database.indexes) :
    program.Ensures (.ofRuns Database.storage (Addressed options table properties))
      (fun _ after => WellIndexed declared after.indexes ∧
        ∀ index ∈ database.indexes, index.table ≠ table → index ∈ after.indexes) database := by
  refine hprogram.maintains ?_ ⟨h, fun index hindex _ => hindex⟩
  rintro statement reply before after hstatement ⟨hbefore, hkept⟩ hanswer
  obtain ⟨hafter, hothers⟩ := hbefore.after hdeclared hshadow hstatement
  rw [Database.indexes_of_storage hanswer]
  exact ⟨hafter, fun index hindex hne => hothers index (hkept index hindex hne) hne⟩

/-- No two of the indexes that are asked for have the same name. -/
def NamesDiffer (declared : List (String × PropertySet)) : Prop :=
  ∀ first ∈ indexedColumns declared, ∀ second ∈ indexedColumns declared,
    indexName first.1 first.2 = indexName second.1 second.2 → first = second

instance (declared : List (String × PropertySet)) : Decidable (NamesDiffer declared) :=
  inferInstanceAs (Decidable (∀ first ∈ indexedColumns declared,
    ∀ second ∈ indexedColumns declared,
      indexName first.1 first.2 = indexName second.1 second.2 → first = second))

/-- Where names differ, each index is there once its step was carried out. -/
lemma carryOut_createIndex_indexes {columns : List String} {copied : Nat}
    (hdeclared : (table, properties) ∈ declared) (hdiffer : NamesDiffer declared)
    (hcolumns : ∀ column ∈ columns, column ∈ properties.indexNames)
    (h : WellIndexed declared database.indexes) :
    (carryOut options properties desired live copied (columns.map (.createIndex table))).Ensures
      (.ofRuns Database.storage (Addressed options table properties))
      (fun _ after => (∀ index ∈ database.indexes, index ∈ after.indexes) ∧
        ∀ column ∈ columns, after.HasIndex table column) database := by
  induction columns generalizing database with
  | nil => exact ⟨fun index hindex => hindex, List.forall_mem_nil _⟩
  | cons first rest ih =>
    obtain ⟨hfirst, hrest⟩ := List.forall_mem_cons.mp hcolumns
    rw [List.map_cons, carryOut_cons _ _ rfl]
    refine ⟨.createIndex hfirst, fun reply created hanswer => ?_⟩
    have hasked := mem_indexedColumns_iff.mpr ⟨properties, hdeclared, hfirst⟩
    obtain ⟨hcreated, hkept, index, hindex, hname⟩ := h.createIndex hasked
    rw [← Database.indexes_of_storage hanswer] at hcreated hkept hindex
    -- the index of this name is the one that is asked for
    have hsame : (index.table, index.column) = (table, first) := by
      refine hdiffer _ (hcreated.asked index hindex) _ hasked ?_
      rw [← hcreated.named index hindex]
      exact hname
    obtain ⟨htable, hcolumn⟩ := Prod.mk.inj hsame
    refine (ih hrest hcreated).mono fun _ after hafter => ?_
    refine ⟨fun known hknown => hafter.1 known (hkept known hknown), ?_⟩
    exact List.forall_mem_cons.mpr ⟨⟨index, hafter.1 index hindex, htable, hcolumn⟩, hafter.2⟩

/-- Where names differ, a migration that is completed leaves all indexes of its table. -/
lemma migrate_indexes (hcreate : options.createIndexes = true)
    (hdeclared : (table, properties) ∈ declared)
    (hshadow : ∀ entry ∈ declared, options.shadowName table ≠ entry.1)
    (hdiffer : NamesDiffer declared) (h : WellIndexed declared database.indexes) :
    (migrate options table properties).Ensures
      (.ofRuns Database.storage (Addressed options table properties))
      (fun result after => ∀ change, result = .ok change →
        ∀ column ∈ properties.indexNames, after.HasIndex table column) database := by
  have hfailed : ∀ {α : Type} (reason : MigrationError) (after : Database) (value : α),
      (Except.error reason : Except MigrationError α) = .ok value →
        ∀ column ∈ properties.indexNames, after.HasIndex table column :=
    fun reason after value hvalue => by cases hvalue
  unfold migrate
  cases hdesired : desiredTable table properties with
  | error reason => exact hfailed reason database
  | ok desired =>
    obtain ⟨hname, hcolumns⟩ := eq_of_desiredTable hdesired
    simp only [liftM_eq_done, done_ok_bind]
    refine (clearUp_addressed.wellIndexed hdeclared hshadow h).bind ?_ fun reason after _ =>
      hfailed reason after
    rintro _ cleared ⟨hcleared, -⟩
    have hlooks : KeepsTo options table properties (currentColumns table) :=
      currentColumns_sends (addressed_allowsLooking options table properties)
    refine (hlooks.wellIndexed hdeclared hshadow hcleared).bind ?_ fun reason after _ =>
      hfailed reason after
    rintro found looked ⟨hlooked, -⟩
    obtain ⟨steps, hsteps, hkeeps⟩ := exists_planSteps found hname hcolumns
    have hindexes : Plan.indexSteps options desired =
        properties.indexNames.map (.createIndex table) := by
      rw [Plan.indexSteps, if_pos hcreate, hname, Table.indexNames, hcolumns]
      rfl
    rw [hsteps, carryOut_append, bind_bind, hindexes]
    refine ((hkeeps 0).wellIndexed hdeclared hshadow hlooked).bind ?_ fun reason after _ =>
      hfailed reason after
    rintro copied reached ⟨hreached, -⟩
    refine (carryOut_createIndex_indexes hdeclared hdiffer (fun column hcolumn => hcolumn)
      hreached).bind ?_ fun reason after _ => hfailed reason after
    rintro _ after ⟨-, hthere⟩ change _
    exact hthere

/-! ## Declared tables -/

/-- The databases that completed migrations of declared tables lead to, one after the other, with
the properties that each table was migrated to last. -/
inductive Deployed (options : MigrationOptions) (declared : List (String × PropertySet)) :
    (String → Option PropertySet) → Database → Prop
  /-- At first there is no table. -/
  | empty : Deployed options declared (fun _ => none) .empty
  /-- A migration of a declared table was completed. -/
  | migrated {schemas : String → Option PropertySet} {database after : Database} {table : String}
    {properties : PropertySet} {change : Change} (h : Deployed options declared schemas database)
    (hdeclared : (table, properties) ∈ declared)
    (hrun : (migrate options table properties).run Database.storage database =
      (.ok change, after)) :
    Deployed options declared (Function.update schemas table (some properties)) after

variable {schemas : String → Option PropertySet}

/-- Every index that the last properties of a table ask for is there, however the declared tables
were migrated. -/
def IndexesThere (options : MigrationOptions) (declared : List (String × PropertySet)) : Prop :=
  ∀ schemas database, Deployed options declared schemas database →
    ∀ table properties, schemas table = some properties →
      ∀ column ∈ properties.indexNames, database.HasIndex table column

/-- The shadow of a declared table is not declared. -/
abbrev ShadowsFree (options : MigrationOptions) (declared : List (String × PropertySet)) : Prop :=
  ∀ first ∈ declared, ∀ second ∈ declared, options.shadowName first.1 ≠ second.1

/-- The invariant holds after all completed migrations. -/
lemma Deployed.wellIndexed (h : Deployed options declared schemas database)
    (hshadows : ShadowsFree options declared) : WellIndexed declared database.indexes := by
  induction h with
  | empty => exact ⟨List.forall_mem_nil _, List.forall_mem_nil _, List.nodup_nil⟩
  | @migrated _ _ _ table properties _ _ hdeclared hrun ih =>
    have hmigrate := (migrate_addressed options table properties).wellIndexed hdeclared
      (hshadows _ hdeclared) ih
    exact (hmigrate.of_run hrun).1

/-- Where names differ, all indexes are there after all completed migrations. -/
lemma Deployed.hasIndex (h : Deployed options declared schemas database)
    (hcreate : options.createIndexes = true) (hshadows : ShadowsFree options declared)
    (hdiffer : NamesDiffer declared) (hschema : schemas table = some properties) :
    ∀ column ∈ properties.indexNames, database.HasIndex table column := by
  induction h with
  | empty => cases hschema
  | @migrated _ before after migrated properties' _ hbefore hdeclared hrun ih =>
    have hwell := hbefore.wellIndexed hshadows
    have hshadow := hshadows _ hdeclared
    by_cases heq : table = migrated
    · subst heq
      rw [Function.update_self] at hschema
      obtain rfl := Option.some.inj hschema
      exact (migrate_indexes hcreate hdeclared hshadow hdiffer hwell).of_run hrun _ rfl
    · rw [Function.update_of_ne heq] at hschema
      intro column hcolumn
      obtain ⟨index, hindex, htable, hname⟩ := ih hschema column hcolumn
      have hkept := (((migrate_addressed options migrated properties').wellIndexed hdeclared hshadow
        hwell).of_run hrun).2
      refine ⟨index, hkept index hindex ?_, htable, hname⟩
      rw [htable]
      exact heq

/-- Two tables that are declared can be migrated one after the other. -/
lemma exists_deployed {first second : String × PropertySet}
    (hdeclared : ∀ entry ∈ declared, isPlainName entry.1 = true ∧ entry.2.isEmpty = false)
    (hshadows : ShadowsFree options declared) (hfirst : first ∈ declared)
    (hsecond : second ∈ declared) (hne : first.1 ≠ second.1) :
    ∃ schemas database, Deployed options declared schemas database ∧
      schemas first.1 = some first.2 ∧ schemas second.1 = some second.2 := by
  obtain ⟨hplain, hnonempty⟩ := hdeclared first hfirst
  obtain ⟨hplain', hnonempty'⟩ := hdeclared second hsecond
  obtain ⟨database, hrun, -, hothers⟩ := migrate_creates options .empty hplain hnonempty rfl rfl
  have hfree : database.table? second.1 = none := hothers _ hne.symm
  have hfree' : database.table? (options.shadowName second.1) = none :=
    hothers _ (hshadows second hsecond first hfirst)
  obtain ⟨after, hrun', -, -⟩ := migrate_creates options database hplain' hnonempty' hfree hfree'
  have hdeployed : Deployed options declared _ after :=
    (Deployed.empty.migrated hfirst hrun).migrated hsecond hrun'
  refine ⟨_, after, hdeployed, ?_, ?_⟩
  · rw [Function.update_of_ne hne, Function.update_self]
  · rw [Function.update_self]

/-- Indexes that are all there have different names. -/
lemma namesDiffer_of_indexesThere
    (hdeclared : ∀ entry ∈ declared, isPlainName entry.1 = true ∧ entry.2.isEmpty = false)
    (hshadows : ShadowsFree options declared) (h : IndexesThere options declared) :
    NamesDiffer declared := by
  rintro ⟨table, column⟩ hfirst ⟨other, column'⟩ hsecond hname
  obtain ⟨properties, hentry, hcolumn⟩ := mem_indexedColumns_iff.mp hfirst
  obtain ⟨properties', hentry', hcolumn'⟩ := mem_indexedColumns_iff.mp hsecond
  by_cases hne : table = other
  · subst hne
    rw [indexName, indexName, String.append_left_inj, String.append_right_inj] at hname
    exact Prod.ext rfl hname
  · obtain ⟨schemas, database, hdeployed, hschema, hschema'⟩ :=
      exists_deployed hdeclared hshadows hentry hentry' hne
    have hwell := hdeployed.wellIndexed hshadows
    obtain ⟨first, hindex, htable, hcolumn⟩ :=
      h _ _ hdeployed table properties hschema column hcolumn
    obtain ⟨second, hindex', htable', hcolumn'⟩ :=
      h _ _ hdeployed other properties' hschema' column' hcolumn'
    have hnames : first.name = second.name := by
      rw [hwell.named first hindex, hwell.named second hindex', htable, htable', hcolumn, hcolumn',
        hname]
    have hsame := hwell.eq_of_name_eq hindex hindex' hnames
    rw [← htable, ← htable', ← hcolumn, ← hcolumn', hsame]

/-- Names differ just if no table has the name of another one with an underscore and a text after it
that stands, with an underscore of its own, at the beginning of the other one's column. -/
lemma namesDiffer_iff : NamesDiffer declared ↔
    ∀ first ∈ indexedColumns declared, ∀ second ∈ indexedColumns declared, ∀ middle,
      second.1 = first.1 ++ "_" ++ middle → first.2 ≠ middle ++ "_" ++ second.2 := by
  constructor
  · intro hdiffer first hfirst second hsecond middle htable hcolumn
    have hname := indexName_eq_iff.mpr (.inr (.inl ⟨middle, htable, hcolumn⟩))
    have hsame := hdiffer first hfirst second hsecond hname
    have hlength := congrArg String.length htable
    rw [hsame, String.length_append, String.length_append] at hlength
    have hunderscore : "_".length = 1 := rfl
    omega
  · intro hapart first hfirst second hsecond hname
    rcases indexName_eq_iff.mp hname with ⟨htable, hcolumn⟩ | ⟨middle, htable, hcolumn⟩ |
      ⟨middle, htable, hcolumn⟩
    · exact Prod.ext htable hcolumn
    · exact absurd hcolumn (hapart first hfirst second hsecond middle htable)
    · exact absurd hcolumn (hapart second hsecond first hfirst middle htable)

/-- Properties of which one is a number with an index. -/
def indexedProperties (name : String) (h : isPlainName name = true) : PropertySet where
  toList := [{ Property.plain name .number with indexed := true }]
  names_valid := by
    intro property hproperty
    rw [List.mem_singleton.mp hproperty]
    exact h
  names_nodup := List.nodup_cons.mpr ⟨List.not_mem_nil, List.nodup_nil⟩
  primaryKeys_le_one := Nat.zero_le 1

/-- Users, each in a group, and the groups of users. -/
def usersAndGroups : List (String × PropertySet) :=
  [("user", indexedProperties "group_id" (by decide +kernel)),
    ("user_group", indexedProperties "id" (by decide +kernel))]

/-- Members, each in a group, and the groups of users. -/
def membersAndGroups : List (String × PropertySet) :=
  [("member", indexedProperties "group_id" (by decide +kernel)),
    ("user_group", indexedProperties "id" (by decide +kernel))]

/-- However tables are migrated of which none has the name of another one's shadow, every index that
they ask for is there just if no two of these indexes have the same name.  Such names differ unless
a table has the name of another one with an underscore and a text after it, and the column of the
other one begins with this text. -/
theorem indexes_there_iff_names_differ (hcreate : options.createIndexes = true)
    (hdeclared : ∀ entry ∈ declared, isPlainName entry.1 = true ∧ entry.2.isEmpty = false)
    (hshadows : ShadowsFree options declared) :
    (IndexesThere options declared ↔ NamesDiffer declared) ∧
    (NamesDiffer declared ↔
      ∀ first ∈ indexedColumns declared, ∀ second ∈ indexedColumns declared, ∀ middle,
        second.1 = first.1 ++ "_" ++ middle → first.2 ≠ middle ++ "_" ++ second.2) := by
  refine ⟨⟨namesDiffer_of_indexesThere hdeclared hshadows, ?_⟩, namesDiffer_iff⟩
  intro hdiffer schemas database hdeployed table properties hschema
  exact hdeployed.hasIndex hcreate hshadows hdiffer hschema

/-- The indexes of members and of groups are always there. -/
theorem members_and_groups_indexed : NamesDiffer membersAndGroups ∧
    IndexesThere {} membersAndGroups := by
  have hdeclared : ∀ entry ∈ membersAndGroups,
      isPlainName entry.1 = true ∧ entry.2.isEmpty = false := by decide +kernel
  have hshadows : ShadowsFree {} membersAndGroups := by decide +kernel
  have hdiffer : NamesDiffer membersAndGroups := by decide +kernel
  exact ⟨hdiffer, (indexes_there_iff_names_differ rfl hdeclared hshadows).1.mpr hdiffer⟩

/-- The index of the groups of users has the name of that of the users' groups.  Both migrations are
completed, and there is one index, on the table that was migrated first. -/
theorem user_group_not_indexed : ¬ IndexesThere {} usersAndGroups ∧
    let users := indexedProperties "group_id" (by decide +kernel)
    let groups := indexedProperties "id" (by decide +kernel)
    let first := (migrate {} "user" users).run Database.storage .empty
    let second := (migrate {} "user_group" groups).run Database.storage first.2
    first.1.toOption = some .created ∧ second.1.toOption = some .created ∧
      second.2.indexes = [⟨"user_group_id_index", "user", "group_id"⟩] := by
  constructor
  · intro hthere
    have hdeclared : ∀ entry ∈ usersAndGroups,
        isPlainName entry.1 = true ∧ entry.2.isEmpty = false := by decide +kernel
    have hshadows : ShadowsFree {} usersAndGroups := by decide +kernel
    have hdiffer : NamesDiffer usersAndGroups :=
      namesDiffer_of_indexesThere hdeclared hshadows hthere
    exact absurd hdiffer (by decide +kernel)
  · decide +kernel

end Migration

end DocTables
