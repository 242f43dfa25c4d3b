import DocTables.Proofs.Migration.CrashSafety

/-!
# What clearing up drops

Clearing up takes a table with the name of a shadow for a leftover copy.  It has nothing but the
name to go by: when the table is there as well, whatever has the name of its shadow is dropped.  So
a table that is declared under such a name is lost, even though every migration was completed; the
empty suffix is the extreme case, in which every table is its own shadow.

Which statement clearing up sends is determined by the two lookups (`clearUp_record`).  From this
follows when it spares all tables that are declared: just if no declared name is that of a shadow of
a declared table (`spares_iff_no_shadow_declared`).
-/

namespace DocTables.Migration

open Dialogue

variable {options : MigrationOptions} {table : String} {properties : PropertySet} {desired : Table}
  {database : Database} {condition : Database → Prop}

/-! ## The statements of clearing up -/

/-- Clearing up looks for the shadow, and if it is there for the table; then it drops the shadow or
gives it the name of the table. -/
lemma clearUp_record (options : MigrationOptions) (table : String) (database : Database) :
    ((clearUp options table).record Database.storage database).map Prod.fst =
      .findTable (options.shadowName table) ::
        if (database.table? (options.shadowName table)).isSome then
          [.findTable table,
            if (database.table? table).isSome then .dropTable (options.shadowName table)
            else .renameTable (options.shadowName table) table]
        else [] := by
  unfold clearUp
  rw [hasTable_bind]
  cases hshadow : database.table? (options.shadowName table) with
  | none => simp [record, Database.storage, Database.apply, hshadow, Reply.toRows]
  | some shadow =>
    cases htable : database.table? table with
    | none =>
      simp [record, Database.storage, Database.apply, hshadow, htable, Reply.toRows, hasTable_bind,
        discard_send]
    | some stored =>
      simp [record, Database.storage, Database.apply, hshadow, htable, Reply.toRows, hasTable_bind,
        discard_send]

/-- Clearing up drops the shadow of the table, when both are there, and nothing else. -/
lemma dropTable_mem_clearUp_iff {name : String} :
    .dropTable name ∈ ((clearUp options table).record Database.storage database).map Prod.fst ↔
      name = options.shadowName table ∧ (database.table? name).isSome = true ∧
        (database.table? table).isSome = true := by
  rw [clearUp_record]
  constructor
  · intro h
    split at h
    · rename_i hshadow
      split at h
      · rename_i htable
        obtain rfl : name = options.shadowName table := by simpa using h
        exact ⟨rfl, hshadow, htable⟩
      · simp at h
    · simp at h
  · rintro ⟨rfl, hshadow, htable⟩
    simp [hshadow, htable]

/-! ## Creating a table -/

/-- A table whose name is plain is desired with the columns of properties, when there are any. -/
lemma desiredTable_of_plain (hplain : isPlainName table = true) (hne : properties.isEmpty = false) :
    desiredTable table properties = .ok ⟨table, properties.columns⟩ := by
  simp [desiredTable, Table.ofProperties, hplain, hne]

/-- There is nothing to clear up without a shadow. -/
lemma clearUp_of_no_shadow (hshadow : database.table? (options.shadowName table) = none)
    (hcondition : condition database) :
    (clearUp options table).Ensures (.ofStorage Database.storage condition)
      (fun result after => result = .ok () ∧ after = database) database := by
  unfold clearUp
  refine (hasTable_ensures _ hcondition).bind ?_ ?_
  · rintro present after ⟨hpresent, rfl⟩
    rw [Except.ok.inj hpresent, hshadow]
    exact ⟨rfl, rfl⟩
  · rintro reason after ⟨hreason, -⟩
    cases hreason

/-- A table that is not there has no columns. -/
lemma currentColumns_of_missing (htable : database.table? table = none)
    (hcondition : condition database) :
    (currentColumns table).Ensures (.ofStorage Database.storage condition)
      (fun result after => result = .ok none ∧ after = database) database := by
  unfold currentColumns
  refine (hasTable_ensures _ hcondition).bind ?_ ?_
  · rintro present after ⟨hpresent, rfl⟩
    rw [Except.ok.inj hpresent, htable]
    exact ⟨rfl, rfl⟩
  · rintro reason after ⟨hreason, -⟩
    cases hreason

/-- A migration of a table that is not there, and has no shadow, creates it and leaves all other
tables as they are. -/
lemma migrate_creates (options : MigrationOptions) (database : Database)
    (hplain : isPlainName table = true) (hne : properties.isEmpty = false)
    (htable : database.table? table = none)
    (hshadow : database.table? (options.shadowName table) = none) :
    ∃ after, (migrate options table properties).run Database.storage database =
        (.ok .created, after) ∧
      after.table? table = some ⟨table, properties.columns, []⟩ ∧
      ∀ name, name ≠ table → after.table? name = database.table? name := by
  have hcreates : (migrate options table properties).Ensures
      (.ofStorage Database.storage fun _ => True)
      (fun result after => result = .ok .created ∧
        after.tables = database.tables ++ [⟨table, properties.columns, []⟩]) database := by
    unfold migrate
    simp only [desiredTable_of_plain hplain hne, liftM_eq_done, done_ok_bind]
    refine (clearUp_of_no_shadow hshadow trivial).bind ?_ ?_
    · rintro _ cleared ⟨-, rfl⟩
      refine (currentColumns_of_missing htable trivial).bind ?_ ?_
      · rintro live after ⟨hlive, rfl⟩
        obtain rfl := Except.ok.inj hlive
        obtain ⟨columns, hindexes⟩ := indexSteps_eq options ⟨table, properties.columns⟩
        have hsteps : (Plan.make options ⟨table, properties.columns⟩ none).steps =
            .createTable ⟨table, properties.columns⟩ :: columns.map (.createIndex table) := by
          rw [Plan.make, hindexes]
        rw [hsteps, carryOut_cons _ _ rfl]
        refine Ensures.ask (Database.storage_createTable htable) trivial ?_
        have hcreated : (⟨after.tables ++ [⟨table, properties.columns, []⟩], after.indexes⟩ :
            Database).table? table = some ⟨table, properties.columns, []⟩ := by
          rw [Database.table?_append, htable, Option.none_or, if_pos rfl]
        refine (carryOut_createIndex_ensures hcreated fun _ _ => trivial).bind ?_ ?_
        · rintro copied done ⟨-, htables⟩
          exact ⟨rfl, htables⟩
        · rintro reason done ⟨hreason, -⟩
          cases hreason
      · rintro reason after ⟨hreason, -⟩
        cases hreason
    · rintro reason after ⟨hreason, -⟩
      cases hreason
  obtain ⟨result, after, hrun, rfl, htables⟩ := hcreates.run_eq
  have hlookup : ∀ name, after.table? name = (database.table? name).or
      (if table = name then some ⟨table, properties.columns, []⟩ else none) := by
    intro name
    rw [Database.table?, htables]
    exact Database.table?_append _
  refine ⟨after, hrun, ?_, fun name hname => ?_⟩
  · rw [hlookup, htable, Option.none_or, if_pos rfl]
  · rw [hlookup, if_neg hname.symm, Option.or_none]

/-! ## Declared tables -/

/-- The databases that completed migrations of declared tables lead to, one after the other, each
with properties of its own. -/
inductive Reached (options : MigrationOptions) (declared : List String) : Database → Prop
  /-- At first there is no table. -/
  | empty : Reached options declared .empty
  /-- A migration of a declared table was completed. -/
  | migrated {database after : Database} {table : String} {properties : PropertySet}
    {change : Change} (h : Reached options declared database) (htable : table ∈ declared)
    (hrun : (migrate options table properties).run Database.storage database =
      (.ok change, after)) :
    Reached options declared after

/-- However the declared tables were migrated, clearing up before the next migration of one of them
drops none of them. -/
def Spares (options : MigrationOptions) (declared : List String) : Prop :=
  ∀ database, Reached options declared database → ∀ table ∈ declared, ∀ name ∈ declared,
    .dropTable name ∉ ((clearUp options table).record Database.storage database).map Prod.fst

/-- A shadow is not its own shadow's table: names grow with their suffix. -/
lemma shadowName_shadowName_ne (hne : options.shadowName table ≠ table) :
    options.shadowName (options.shadowName table) ≠ table ∧
      options.shadowName (options.shadowName table) ≠ options.shadowName table := by
  have hsuffix : options.shadowSuffix ≠ "" := by
    intro hempty
    rw [MigrationOptions.shadowName, hempty, String.append_empty] at hne
    exact hne rfl
  refine ⟨?_, shadowName_ne hsuffix⟩
  intro h
  have hlength := congrArg String.length h
  simp only [MigrationOptions.shadowName, String.length_append] at hlength
  have hempty : options.shadowSuffix.length = 0 := by omega
  exact hsuffix (String.length_eq_zero_iff.mp hempty)

/-- A table and its shadow, when both are declared, are both there after they were migrated. -/
lemma exists_reached_with_shadow {declared : List String} (hne : properties.isEmpty = false)
    (hplain : ∀ name ∈ declared, isPlainName name = true) (htable : table ∈ declared)
    (hshadow : options.shadowName table ∈ declared) :
    ∃ database, Reached options declared database ∧ (database.table? table).isSome = true ∧
      (database.table? (options.shadowName table)).isSome = true := by
  obtain ⟨first, hrun, hfirst, hothers⟩ :=
    migrate_creates options .empty (hplain table htable) hne rfl rfl
  have hreached : Reached options declared first := Reached.empty.migrated htable hrun
  by_cases heq : options.shadowName table = table
  · refine ⟨first, hreached, ?_, ?_⟩
    · rw [hfirst]
      rfl
    · rw [heq, hfirst]
      rfl
  · -- the table is migrated before its shadow, which would else be renamed
    obtain ⟨hlonger, hlonger'⟩ := shadowName_shadowName_ne heq
    have hfree : first.table? (options.shadowName table) = none := hothers _ heq
    have hfree' : first.table? (options.shadowName (options.shadowName table)) = none :=
      hothers _ hlonger
    obtain ⟨second, hrun', hsecond, hothers'⟩ :=
      migrate_creates options first (hplain _ hshadow) hne hfree hfree'
    refine ⟨second, hreached.migrated hshadow hrun', ?_, ?_⟩
    · rw [hothers' table fun h => heq h.symm, hfirst]
      rfl
    · rw [hsecond]
      rfl

/-- The properties of the table of people. -/
def nameProperties : PropertySet where
  toList := [.plain "name" .string]
  names_valid := by
    intro property hproperty
    rw [List.mem_singleton.mp hproperty]
    decide +kernel
  names_nodup := List.nodup_cons.mpr ⟨List.not_mem_nil, List.nodup_nil⟩
  primaryKeys_le_one := by decide

/-- Clearing up spares the declared tables just if none of them has the name of a shadow of one of
them. -/
theorem spares_iff_no_shadow_declared (options : MigrationOptions) {declared : List String}
    (hplain : ∀ name ∈ declared, isPlainName name = true) :
    Spares options declared ↔ ∀ table ∈ declared, options.shadowName table ∉ declared := by
  constructor
  · intro hspares table htable hshadow
    have hne : nameProperties.isEmpty = false := rfl
    obtain ⟨database, hreached, hthere, hthere'⟩ :=
      exists_reached_with_shadow hne hplain htable hshadow
    exact hspares database hreached table htable _ hshadow
      (dropTable_mem_clearUp_iff.mpr ⟨rfl, hthere', hthere⟩)
  · intro hfree database _ table htable name hname hdrop
    obtain ⟨rfl, -⟩ := dropTable_mem_clearUp_iff.mp hdrop
    exact hfree table htable hname

/-- Two tables of which none has the name of the other's shadow are spared; a table beside one with
the name of its shadow is not. -/
theorem spares_people_and_orders :
    Spares {} ["people", "orders"] ∧ ¬ Spares {} ["people", "people_shadow"] := by
  have hplain : ∀ name ∈ ["people", "orders"], isPlainName name = true := by decide +kernel
  have hplain' : ∀ name ∈ ["people", "people_shadow"], isPlainName name = true := by decide +kernel
  constructor
  · exact (spares_iff_no_shadow_declared {} hplain).mpr (by decide)
  · rw [spares_iff_no_shadow_declared {} hplain']
    decide

/-- With the empty suffix a table is its own shadow: it is not spared, and a migration to the
columns it has ends well after it has dropped the table with its two rows. -/
theorem people_lost_as_own_shadow :
    ¬ Spares { shadowSuffix := "" } ["people"] ∧
      let migrated := (migrate { shadowSuffix := "" } "people" nameProperties).run Database.storage
        ⟨[people], []⟩
      migrated.1.toOption = some .created ∧
        (migrated.2.table? "people").map (fun stored => stored.rows.length) = some 0 := by
  have hplain : ∀ name ∈ ["people"], isPlainName name = true := by decide +kernel
  have hname : "people" ∈ ["people"] := List.mem_singleton_self _
  refine ⟨fun hspares => ?_, ?_⟩
  · have hnonempty : nameProperties.isEmpty = false := rfl
    obtain ⟨database, hreached, hthere, hthere'⟩ : ∃ database,
        Reached { shadowSuffix := "" } ["people"] database ∧
          (database.table? "people").isSome = true ∧ (database.table? "people").isSome = true :=
      exists_reached_with_shadow hnonempty hplain hname hname
    exact hspares database hreached "people" hname "people" hname
      (dropTable_mem_clearUp_iff.mpr ⟨rfl, hthere', hthere⟩)
  · decide +kernel

end DocTables.Migration
