import DocTables.Proofs.Decimal.NumberText
import DocTables.Proofs.Migration.Addressing
import DocTables.Proofs.Migration.Recovery
import DocTables.Proofs.Name
import DocTables.Proofs.Name.Keyword
import DocTables.Storage.Script

/-!
# Names in the statements of migrations

The text of a statement is put together from fixed words, names, numbers of rows and literals
(`MigrationStatement.fragments`).  Names stand there without quotes, so each of them should be a
plain name.  The names of tables and of columns were checked, and the name of an index, which is
made of two such names, is plain as well.  What a storage reports gets into a statement only as a
literal.

The name of a shadow is made after the check of its table, and it is not checked.  So the names that
migrations of a table send are plain just if that of its shadow is
(`names_checked_iff_shadow_plain`).
-/

namespace DocTables

/-! ## Names of indexes -/

/-- No keyword ends like the name of an index. -/
lemma isKeyword_index (name : String) : isKeyword (name ++ "_index") = false := by
  have hsuffix : ∀ entry ∈ Keyword.table.toList, ¬ "_INDEX".toList <:+ entry.toList := by
    decide +kernel
  rw [Bool.eq_false_iff]
  intro hkeyword
  have hmem := Keyword.mem_of_searchBetween hkeyword
  have hupper : (Text.asciiUpper (name ++ "_index")).toList =
      name.toList.map Char.toUpper ++ "_INDEX".toList := by
    unfold Text.asciiUpper
    rw [String.toList_append, List.map_append]
    exact String.toList_ofList.trans rfl
  exact hsuffix _ (Array.mem_toList_iff.mpr hmem) ⟨name.toList.map Char.toUpper, hupper.symm⟩

/-- The name of an index on a column is plain when those of the table and of the column are. -/
lemma isPlainName_indexName {table column : String} (htable : isPlainName table = true)
    (hcolumn : isPlainName column = true) : isPlainName (indexName table column) = true := by
  obtain ⟨c, rest, hname, hc, hrest⟩ := exists_of_isPlainName htable
  have hkeyword : isKeyword (indexName table column) = false := isKeyword_index _
  have hspelling : (indexName table column).toList =
      c :: (rest ++ ('_' :: (column.toList ++ "_index".toList))) := by
    simp only [indexName, String.toList_append, hname, List.cons_append, List.append_assoc]
    rfl
  have hlast : ∀ d ∈ "_index".toList, isNameRest d = true := List.all_eq_true.mp rfl
  have hall : ∀ d ∈ rest ++ ('_' :: (column.toList ++ "_index".toList)), isNameRest d = true :=
    List.forall_mem_append.mpr ⟨hrest, List.forall_mem_cons.mpr ⟨rfl,
      List.forall_mem_append.mpr ⟨isNameRest_of_mem_plain hcolumn, hlast⟩⟩⟩
  rw [isPlainName, hkeyword, hspelling, isNameSpelling, hc, List.all_eq_true.mpr hall]
  rfl

/-! ## Fragments -/

/-- A part of the text of a statement. -/
inductive Fragment where
  /-- Words of the dialect, with the signs and blanks between them. -/
  | words (text : String)
  /-- The name of a table, a column or an index. -/
  | name (text : String)
  /-- A number of rows. -/
  | number (n : Nat)
  /-- A value. -/
  | value (value : Scalar)
  /-- The default value of a column. -/
  | default (value : Scalar)

namespace Fragment

/-- The text of a part. -/
def text : Fragment → String
  | .words text => text
  | .name text => text
  | .number n => toString n
  | .value v => v.literal
  | .default v => v.defaultLiteral

/-- The text that parts spell. -/
def spell : List Fragment → String
  | [] => ""
  | first :: rest => first.text ++ spell rest

/-- Parts of a list, with words between them. -/
def separated (separator : String) : List (List Fragment) → List Fragment
  | [] => []
  | [only] => only
  | first :: second :: rest =>
    first ++ .words separator :: separated separator (second :: rest)

variable {separator : String}

lemma spell_append (first second : List Fragment) :
    spell (first ++ second) = spell first ++ spell second := by
  induction first with
  | nil => rw [List.nil_append, spell, String.empty_append]
  | cons fragment rest ih => rw [List.cons_append, spell, spell, ih, String.append_assoc]

lemma spell_singleton (fragment : Fragment) : spell [fragment] = fragment.text := by
  rw [spell, spell, String.append_empty]

lemma spell_separated (lists : List (List Fragment)) :
    spell (separated separator lists) = separator.intercalate (lists.map spell) := by
  induction lists with
  | nil => rw [List.map_nil, String.intercalate_nil, separated, spell]
  | cons first rest ih =>
    cases rest with
    | nil => rw [List.map_singleton, String.intercalate_singleton, separated]
    | cons second others =>
      rw [List.map_cons, List.map_cons, String.intercalate_cons_cons, ← List.map_cons, ← ih,
        separated, spell_append, spell, text, String.append_assoc]

end Fragment

/-- The parts of the definition of a column. -/
def Column.fragments (column : Column) : List Fragment :=
  Fragment.separated " " ([[.name column.name], [.words column.type.name]] ++
    (if column.unique then [[.words "UNIQUE"]] else []) ++
    (if column.primaryKey then [[.words "PRIMARY KEY"]] else []) ++
    (if column.notNull then [[.words "NOT NULL"]] else []) ++
    (match column.default with
      | some value => [[.words "DEFAULT ", .default value]]
      | none => []))

/-- The source of a value in a copy. -/
def CopySource.fragment : CopySource → Fragment
  | .column name => .name name
  | .value v => .value v

/-- The parts of the text of a statement. -/
def MigrationStatement.fragments : MigrationStatement → List Fragment
  | .findTable name =>
    [.words "SELECT name FROM sqlite_master WHERE type = 'table' AND name = ", .value (.text name)]
  | .tableInfo table => [.words "PRAGMA table_info(", .name table, .words ")"]
  | .indexList table => [.words "PRAGMA index_list(", .name table, .words ")"]
  | .indexInfo index => [.words "PRAGMA index_info(", .value (.text index), .words ")"]
  | .readAll table => [.words "SELECT * FROM ", .name table]
  | .createTable table =>
    [.words "CREATE TABLE ", .name table.name, .words " ("] ++
      Fragment.separated ", " (table.columns.map Column.fragments) ++ [.words ")"]
  | .addColumn table column =>
    [.words "ALTER TABLE ", .name table, .words " ADD COLUMN "] ++ column.fragments
  | .copyRows copy limit offset =>
    [.words "INSERT INTO ", .name copy.target, .words " ("] ++
      Fragment.separated ", " (copy.columns.map fun column => [.name column.1]) ++
      [.words ") SELECT "] ++
      Fragment.separated ", " (copy.columns.map fun column => [column.2.fragment]) ++
      [.words " FROM ", .name copy.source, .words " ORDER BY rowid LIMIT ", .number limit,
        .words " OFFSET ", .number offset]
  | .dropTable table => [.words "DROP TABLE ", .name table]
  | .renameTable source target =>
    [.words "ALTER TABLE ", .name source, .words " RENAME TO ", .name target]
  | .createIndex table column =>
    [.words "CREATE INDEX IF NOT EXISTS ", .name (indexName table column), .words " ON ",
      .name table, .words " (", .name column, .words ")"]

open Fragment

lemma Column.spell_fragments (column : Column) : spell column.fragments = column.definition := by
  obtain ⟨name, type, unique, primaryKey, indexed, notNull, default⟩ := column
  rw [fragments, spell_separated, definition, definitionWords]
  congr 1
  cases unique <;> cases primaryKey <;> cases notNull <;> cases default <;>
    simp [spell, text, defaultLiteral]

lemma CopySource.text_fragment (source : CopySource) : source.fragment.text = source.text := by
  cases source <;> rfl

/-- The parts of a statement spell its text. -/
lemma MigrationStatement.spell_fragments (statement : MigrationStatement) :
    spell statement.fragments = statement.sql := by
  cases statement with
  | createTable table =>
    have hcolumns : (table.columns.map Column.fragments).map spell =
        table.columns.map Column.definition := by
      rw [List.map_map]
      exact List.map_congr_left fun column _ => column.spell_fragments
    unfold fragments sql Table.createStatement Column.definitions
    simp only [spell_append, spell_separated, hcolumns, spell, text, String.append_empty,
      String.append_assoc]
  | addColumn table column =>
    unfold fragments sql
    simp only [spell_append, Column.spell_fragments, spell, text, String.append_empty,
      String.append_assoc]
  | copyRows copy limit offset =>
    have htargets : (copy.columns.map fun column => [Fragment.name column.1]).map spell =
        copy.columns.map Prod.fst := by
      rw [List.map_map]
      exact List.map_congr_left fun column _ => spell_singleton _
    have hsources : (copy.columns.map fun column => [column.2.fragment]).map spell =
        copy.columns.map fun column => column.2.text := by
      rw [List.map_map]
      refine List.map_congr_left fun column _ => ?_
      exact (spell_singleton _).trans column.2.text_fragment
    unfold fragments sql RowCopy.text
    simp only [spell_append, spell_separated, htargets, hsources, spell, text, String.append_empty,
      String.append_assoc]
  | _ =>
    unfold fragments sql
    simp only [spell, text, String.append_empty, String.append_assoc]

/-! ## Checked fragments -/

namespace Fragment

/-- The words that statements of migrations are made of. -/
def fixedWords : List String :=
  ["SELECT name FROM sqlite_master WHERE type = 'table' AND name = ", "PRAGMA table_info(",
    "PRAGMA index_list(", "PRAGMA index_info(", "SELECT * FROM ", "CREATE TABLE ", "ALTER TABLE ",
    " ADD COLUMN ", "INSERT INTO ", ") SELECT ", " FROM ", " ORDER BY rowid LIMIT ", " OFFSET ",
    "DROP TABLE ", " RENAME TO ", "CREATE INDEX IF NOT EXISTS ", " ON ", " (", ")", ", ", " ",
    "TEXT", "REAL", "INTEGER", "DATETIME", "UNIQUE", "PRIMARY KEY", "NOT NULL", "DEFAULT "]

/-- Words are among the fixed ones, a name is plain, and a value is written as a literal, in which a
text is quoted. -/
@[simp] def Sound : Fragment → Prop
  | .words text => text ∈ fixedWords
  | .name text => isPlainName text = true
  | .number _ => True
  | .value v => IsLiteral '\x27' v.literal
  | .default v => IsLiteral '"' v.defaultLiteral

/-- All parts are what they may be. -/
def AllSound (fragments : List Fragment) : Prop := ∀ fragment ∈ fragments, fragment.Sound

@[simp] lemma allSound_nil : AllSound [] := List.forall_mem_nil _

@[simp] lemma allSound_cons {first : Fragment} {rest : List Fragment} :
    AllSound (first :: rest) ↔ first.Sound ∧ AllSound rest := List.forall_mem_cons

@[simp] lemma allSound_append {first second : List Fragment} :
    AllSound (first ++ second) ↔ AllSound first ∧ AllSound second := List.forall_mem_append

/-- Parts with words between them. -/
lemma allSound_separated {lists : List (List Fragment)} (hseparator : separator ∈ fixedWords)
    (h : ∀ list ∈ lists, AllSound list) : AllSound (separated separator lists) := by
  induction lists with
  | nil => exact allSound_nil
  | cons first rest ih =>
    obtain ⟨hfirst, hrest⟩ := List.forall_mem_cons.mp h
    cases rest with
    | nil => exact hfirst
    | cons second others =>
      exact allSound_append.mpr ⟨hfirst, allSound_cons.mpr ⟨hseparator, ih hrest⟩⟩

/-- Single parts with words between them. -/
lemma allSound_separated_map {α : Type} {items : List α} {part : α → Fragment}
    (hseparator : separator ∈ fixedWords) (h : ∀ item ∈ items, (part item).Sound) :
    AllSound (separated separator (items.map fun item => [part item])) := by
  refine allSound_separated hseparator fun list hlist => ?_
  obtain ⟨item, hitem, rfl⟩ := List.mem_map.mp hlist
  exact allSound_cons.mpr ⟨h item hitem, allSound_nil⟩

end Fragment

/-- The definition of a column whose name is plain. -/
lemma Column.allSound_fragments {column : Column} (h : isPlainName column.name = true) :
    AllSound column.fragments := by
  have hclause : ∀ (flag : Bool) (word : String), word ∈ fixedWords →
      ∀ list ∈ (if flag = true then [[Fragment.words word]] else []), AllSound list := by
    intro flag word hword list hlist
    split at hlist
    · rw [List.mem_singleton.mp hlist]
      exact allSound_cons.mpr ⟨hword, allSound_nil⟩
    · exact absurd hlist List.not_mem_nil
  have htype : column.type.name ∈ fixedWords := by cases column.type <;> decide
  have hunique := hclause column.unique "UNIQUE" (by decide)
  have hkey := hclause column.primaryKey "PRIMARY KEY" (by decide)
  have hnull := hclause column.notNull "NOT NULL" (by decide)
  have hword : "DEFAULT " ∈ fixedWords := by decide
  refine allSound_separated (by decide) ?_
  simp only [List.forall_mem_append]
  refine ⟨⟨⟨⟨?_, hunique⟩, hkey⟩, hnull⟩, ?_⟩
  · simp [h, htype]
  · cases column.default with
    | none => exact List.forall_mem_nil _
    | some v => simp [hword, v.isLiteral_defaultLiteral]

namespace Migration

open Dialogue

variable {options : MigrationOptions} {table : String} {properties : PropertySet}

/-- All names in a statement were checked. -/
def NamesChecked (statement : MigrationStatement) : Prop := AllSound statement.fragments

/-- The creation of a table with a plain name and the columns of properties. -/
lemma namesChecked_createTable {name : String} (h : isPlainName name = true) :
    NamesChecked (.createTable ⟨name, properties.columns⟩) := by
  have hcolumns : AllSound (separated ", " (properties.columns.map Column.fragments)) := by
    refine allSound_separated (by decide) fun list hlist => ?_
    obtain ⟨column, hcolumn, rfl⟩ := List.mem_map.mp hlist
    exact Column.allSound_fragments (isPlainName_of_mem_columns hcolumn)
  simp [NamesChecked, MigrationStatement.fragments, fixedWords, h, hcolumns]

/-- A copy between tables with plain names. -/
lemma namesChecked_copyRows {source target : String} (hsource : isPlainName source = true)
    (htarget : isPlainName target = true) (present : List String) (limit offset : Nat) :
    NamesChecked (.copyRows (.ofProperties source target properties present) limit offset) := by
  have hcolumns : ∀ column ∈ (RowCopy.ofProperties source target properties present).columns,
      (Fragment.name column.1).Sound ∧ column.2.fragment.Sound := by
    intro column hcolumn
    obtain ⟨property, hproperty, rfl⟩ := List.mem_map.mp hcolumn
    have hname := properties.names_valid property hproperty
    refine ⟨hname, ?_⟩
    simp only
    split
    · exact hname
    · exact Scalar.isLiteral_literal _
  have hcomma : ", " ∈ fixedWords := by decide
  have htargets := allSound_separated_map hcomma fun column hcolumn => (hcolumns column hcolumn).1
  have hsources := allSound_separated_map hcomma fun column hcolumn => (hcolumns column hcolumn).2
  have hstart : AllSound [.words "INSERT INTO ", .name target, .words " ("] := by
    simp [fixedWords, htarget]
  have hmiddle : AllSound [.words ") SELECT "] := by simp [fixedWords]
  have hend : AllSound [.words " FROM ", .name source, .words " ORDER BY rowid LIMIT ",
      .number limit, .words " OFFSET ", .number offset] := by
    simp [fixedWords, hsource]
  simp only [NamesChecked, MigrationStatement.fragments, allSound_append]
  exact ⟨⟨⟨⟨hstart, htargets⟩, hmiddle⟩, hsources⟩, hend⟩

/-- Where the name of a table is plain, looking at it only takes up checked names. -/
lemma namesChecked_allowsLooking (h : isPlainName table = true) :
    AllowsLooking NamesChecked table := by
  constructor <;>
    simp [NamesChecked, MigrationStatement.fragments, fixedWords, Scalar.isLiteral_literal, h]

/-- Where the names of a table and of its shadow are plain, a migration of the table only takes up
checked names. -/
lemma Addressed.namesChecked {statement : MigrationStatement}
    (h : Addressed options table properties statement) (htable : isPlainName table = true)
    (hshadow : isPlainName (options.shadowName table) = true) : NamesChecked statement := by
  have hlooking := namesChecked_allowsLooking htable
  have heither : ∀ name, name = table ∨ name = options.shadowName table →
      isPlainName name = true := by
    rintro name (rfl | rfl)
    · exact htable
    · exact hshadow
  cases h with
  | findTable name =>
    simp [NamesChecked, MigrationStatement.fragments, fixedWords, Scalar.isLiteral_literal]
  | tableInfo => exact hlooking.tableInfo
  | indexList => exact hlooking.indexList
  | indexInfo index => exact hlooking.indexInfo index
  | readAll => simp [NamesChecked, MigrationStatement.fragments, fixedWords, htable]
  | createTable hname => exact namesChecked_createTable (heither _ hname)
  | addColumn hcolumn =>
    have hdefinition := Column.allSound_fragments (isPlainName_of_mem_columns hcolumn)
    simp [NamesChecked, MigrationStatement.fragments, fixedWords, htable, hdefinition]
  | copyRows present limit offset => exact namesChecked_copyRows htable hshadow present limit offset
  | dropTable hname =>
    have hplain := heither _ hname
    simp [NamesChecked, MigrationStatement.fragments, fixedWords, hplain]
  | renameTable => simp [NamesChecked, MigrationStatement.fragments, fixedWords, htable, hshadow]
  | createIndex hindexed =>
    obtain ⟨column, hcolumn, rfl⟩ := exists_of_mem_indexNames hindexed
    have hname := isPlainName_of_mem_columns hcolumn
    have hindex := isPlainName_indexName htable hname
    simp [NamesChecked, MigrationStatement.fragments, fixedWords, htable, hname, hindex]

/-! ## Whole programs -/

/-- The name of a table whose shape is desired is plain. -/
lemma isPlainName_of_desiredTable {desired : Table}
    (h : desiredTable table properties = .ok desired) : isPlainName table = true := by
  have hplain := (plain_of_desiredTable h).1
  rwa [(eq_of_desiredTable h).1] at hplain

/-- A preview only takes up checked names. -/
lemma preview_namesChecked :
    (preview options table properties).Ensures (.ofStatements NamesChecked)
      (fun _ _ => True) () := by
  unfold preview
  cases hdesired : desiredTable table properties with
  | error reason => trivial
  | ok desired =>
    simp only [liftM_eq_done, done_ok_bind]
    have hlooking := namesChecked_allowsLooking (isPlainName_of_desiredTable hdesired)
    exact (currentColumns_sends hlooking).bind (fun _ _ _ => trivial) fun _ _ _ => trivial

/-- A table beside its shadow. -/
def besideShadow (options : MigrationOptions) (table : String) : Database :=
  ⟨[⟨table, [], []⟩, ⟨options.shadowName table, [], []⟩], []⟩

/-- A migration of a table beside its shadow drops the shadow. -/
lemma dropTable_mem_migrate {desired : Table} (h : desiredTable table properties = .ok desired) :
    ∃ answer, (.dropTable (options.shadowName table), answer) ∈
      (migrate options table properties).record Database.storage (besideShadow options table) := by
  have htable : ((besideShadow options table).table? table).isSome = true := by
    simp [besideShadow]
  have hshadow :
      ((besideShadow options table).table? (options.shadowName table)).isSome = true := by
    by_cases hsame : table = options.shadowName table
    · rw [← hsame, htable]
    · simp [besideShadow, hsame]
  have hdropped := dropTable_mem_clearUp_iff.mpr ⟨rfl, hshadow, htable⟩
  obtain ⟨⟨statement, answer⟩, hexchange, rfl⟩ := List.mem_map.mp hdropped
  refine ⟨answer, ?_⟩
  unfold migrate
  simp only [h, liftM_eq_done, done_ok_bind]
  exact mem_record_bind hexchange _

/-- The text of a statement is spelled by its parts.  Whatever a storage answers, all names that a
preview sends were checked, and so are all names that a migration sends just if the name of the
shadow is plain as well, unless the migration is refused before it sends anything. -/
theorem names_checked_iff_shadow_plain (options : MigrationOptions) (table : String)
    (properties : PropertySet) :
    (∀ statement : MigrationStatement, spell statement.fragments = statement.sql) ∧
    (∀ (τ : Type) (storage : Storage MigrationStatement τ) (state : τ),
      ∀ exchange ∈ (preview options table properties).record storage state,
        NamesChecked exchange.1) ∧
    ((∀ (τ : Type) (storage : Storage MigrationStatement τ) (state : τ),
      ∀ exchange ∈ (migrate options table properties).record storage state,
        NamesChecked exchange.1) ↔
      ∀ desired, desiredTable table properties = .ok desired →
        isPlainName (options.shadowName table) = true) := by
  refine ⟨MigrationStatement.spell_fragments, fun τ storage state =>
    preview_namesChecked.sends_allowed storage state, ?_, ?_⟩
  · intro hchecked desired hdesired
    obtain ⟨answer, hexchange⟩ := dropTable_mem_migrate hdesired
    have hdropped := hchecked Database Database.storage _ _ hexchange
    exact hdropped (.name (options.shadowName table))
      (List.mem_cons_of_mem _ (List.mem_singleton_self _))
  · intro hshadow τ storage state exchange hexchange
    cases hdesired : desiredTable table properties with
    | error reason =>
      unfold migrate at hexchange
      simp only [hdesired, liftM_eq_done, done_error_bind] at hexchange
      exact absurd hexchange List.not_mem_nil
    | ok desired =>
      have haddressed := (migrate_addressed options table properties).sends_allowed storage state
      exact (haddressed exchange hexchange).namesChecked (isPlainName_of_desiredTable hdesired)
        (hshadow desired hdesired)

/-- With the suffix that is set by default, all names in a migration of the table of people are
checked, whatever a storage answers. -/
theorem people_names_checked : ∀ (τ : Type) (storage : Storage MigrationStatement τ) (state : τ),
    ∀ exchange ∈ (migrate {} "people" nameProperties).record storage state,
      NamesChecked exchange.1 := by
  have hshadow : isPlainName (({} : MigrationOptions).shadowName "people") = true := by
    decide +kernel
  exact (names_checked_iff_shadow_plain {} "people" nameProperties).2.2.mpr fun _ _ => hshadow

/-- Answers by which a table named like a shadow is there, and the table of people as well. -/
def oldPeopleReplies : List (Except StorageError Reply) :=
  [.ok (.rows [[("name", .string "people-old")]]), .ok (.rows [[("name", .string "people")]]),
    .ok (.written none 0)]

/-- With a suffix that begins with a hyphen, a name that is not plain is sent without quotes. -/
theorem people_old_dropped_unchecked : isPlainName "people-old" = false ∧
    let sent := (migrate { shadowSuffix := "-old" } "people" nameProperties).record Script.answer
      (.start oldPeopleReplies)
    "DROP TABLE people-old" ∈ sent.map (fun exchange => exchange.1.sql) ∧
      ¬ ∀ exchange ∈ sent, NamesChecked exchange.1 := by
  have hname : isPlainName "people-old" = false := by decide +kernel
  have hdrop : MigrationStatement.dropTable "people-old" ∈
      ((migrate { shadowSuffix := "-old" } "people" nameProperties).record Script.answer
        (.start oldPeopleReplies)).map Prod.fst := by decide +kernel
  obtain ⟨exchange, hexchange, hstatement⟩ := List.mem_map.mp hdrop
  refine ⟨hname, List.mem_map.mpr ⟨exchange, hexchange, ?_⟩, fun hchecked => ?_⟩
  · rw [hstatement]
    decide +kernel
  · have hsound := hchecked exchange hexchange
    rw [hstatement] at hsound
    have hplain := hsound (.name "people-old") (List.mem_cons_of_mem _ (List.mem_singleton_self _))
    rw [Sound, hname] at hplain
    cases hplain

end Migration

end DocTables
