import DocTables.Proofs.Result
import DocTables.Query.Call

/-!
# Effects of calls

What a call makes of a query can be said by the query that it was, once the call is not refused
(`Query.Effect`).  The calls that take a filter document have one effect in common: they set the
verb and what belongs to it (`Query.Prepares`), and then add the condition of the document, if it
has one.  All that is proved about single calls is read off these effects (`effect_of_call`), so
that a change of a call is a change of one case here.
-/

namespace DocTables

namespace Query

variable {query next : Query}

/-! ## Checks -/

/-- Conditions may be added just if the query is not finalized. -/
lemma requireOpen_eq_ok_iff : query.requireOpen = .ok () ↔ query.finalized = false := by
  unfold requireOpen
  cases query.finalized with
  | false => exact iff_of_true rfl rfl
  | true => exact iff_of_false nofun nofun

/-- Names are not refused just if they are plain. -/
lemma requireColumns_eq_ok_iff {names : List String} :
    requireColumns names = .ok () ↔ ∀ name ∈ names, isPlainName name = true := by
  induction names with
  | nil => exact iff_of_true rfl (List.forall_mem_nil _)
  | cons name rest ih =>
    rw [requireColumns, List.forall_mem_cons, ← ih]
    by_cases hname : isPlainName name = true
    · simp [hname]
    · simp [hname]

/-- Documents are not refused just if they are rows whose keys are plain. -/
lemma documentRows_eq_ok_iff {documents : List Json} {rows : List Row} :
    documentRows documents = .ok rows ↔ documents = rows.map Json.object ∧
      ∀ row ∈ rows, ∀ name ∈ Json.Fields.names row, isPlainName name = true := by
  constructor
  · intro h
    induction documents generalizing rows with
    | nil =>
      cases h
      exact ⟨rfl, List.forall_mem_nil _⟩
    | cons document rest ih =>
      cases document with
      | object row =>
        rw [documentRows] at h
        obtain ⟨_, hnames, h⟩ := exists_of_bind_eq_ok h
        obtain ⟨others, hothers, h⟩ := exists_of_bind_eq_ok h
        cases h
        obtain ⟨rfl, hplain⟩ := ih hothers
        exact ⟨rfl, List.forall_mem_cons.mpr ⟨requireColumns_eq_ok_iff.mp hnames, hplain⟩⟩
      | _ => cases h
  · rintro ⟨rfl, hplain⟩
    induction rows with
    | nil => rfl
    | cons row rest ih =>
      obtain ⟨hrow, hrest⟩ := List.forall_mem_cons.mp hplain
      rw [List.map_cons, documentRows, requireColumns_eq_ok_iff.mpr hrow, ih hrest]
      rfl

/-! ## Conditions -/

/-- The query with a condition added, if there is one. -/
def collect (query : Query) : Option Condition → Query
  | none => query
  | some condition => query.addCondition condition

/-- A filter document adds the condition it is compiled to. -/
lemma eq_collect_of_filter {document : Json} (h : query.filter document = .ok next) :
    query.finalized = false ∧ ∃ condition, Filter.compile document = .ok condition ∧
      next = query.collect condition := by
  unfold filter at h
  obtain ⟨_, hopen, h⟩ := exists_of_bind_eq_ok h
  obtain ⟨condition, hcompile, h⟩ := exists_of_bind_eq_ok h
  refine ⟨requireOpen_eq_ok_iff.mp hopen, condition, hcompile, ?_⟩
  cases condition <;> exact (Except.ok.inj h).symm

/-- A field that is named is a column, and waits for its comparison. -/
lemma eq_of_onField {field : String} (h : query.onField field = .ok next) :
    query.finalized = false ∧ isColumnPath field = true ∧
      next = { query with pendingField := some field } := by
  unfold onField at h
  obtain ⟨_, hopen, h⟩ := exists_of_bind_eq_ok h
  split at h
  · rename_i hpath
    exact ⟨requireOpen_eq_ok_iff.mp hopen, hpath, (Except.ok.inj h).symm⟩
  · cases h

/-- A comparison is made of the field that waits, and no field waits after it. -/
lemma exists_of_compare {comparator : Comparator} {value : Json}
    (h : query.compare comparator value = .ok next) :
    query.finalized = false ∧ ∃ field operand comparison, query.pendingField = some field ∧
      Operand.ofJson comparator value = .ok operand ∧
      Comparison.make field comparator operand = .ok comparison ∧
      next = { query with pendingField := none }.addCondition (.comparison comparison) := by
  unfold compare at h
  obtain ⟨_, hopen, h⟩ := exists_of_bind_eq_ok h
  split at h
  · cases h
  · rename_i field hpending
    obtain ⟨operand, hread, h⟩ := exists_of_bind_eq_ok h
    obtain ⟨comparison, hmake, h⟩ := exists_of_bind_eq_ok h
    exact ⟨requireOpen_eq_ok_iff.mp hopen, field, operand, comparison, hpending, hread, hmake,
      (Except.ok.inj h).symm⟩

/-! ## Columns and rows -/

/-- The columns that are selected come after the ones there are, but for the star. -/
lemma eq_of_select {columns : List String} (h : query.select columns = .ok next) :
    (∀ column ∈ columns.filter (· ≠ "*"), isColumnPath column = true) ∧
      next = { query with columns := query.columns ++ columns.filter (· ≠ "*") } := by
  induction columns generalizing query with
  | nil =>
    refine ⟨List.forall_mem_nil _, ?_⟩
    rw [List.filter_nil, List.append_nil]
    exact (Except.ok.inj h).symm
  | cons column rest ih =>
    unfold select at h
    split at h
    · rename_i hstar
      rw [List.filter_cons_of_neg (by simp [hstar])]
      exact ih h
    · rename_i hother
      rw [List.filter_cons_of_pos (by simp [hother])]
      split at h
      · rename_i hpath
        obtain ⟨hrest, rfl⟩ := ih h
        exact ⟨List.forall_mem_cons.mpr ⟨hpath, hrest⟩,
          congrArg (fun columns => { query with columns := columns })
            (List.append_cons _ _ _).symm⟩
      · cases h

/-- Documents are inserted just if there are some, and all of them are rows with plain keys. -/
lemma insertMany_eq_ok_iff {documents : List Json} :
    query.insertMany documents = .ok next ↔ documents ≠ [] ∧ ∃ rows : List Row,
      (documents = rows.map Json.object ∧
        ∀ row ∈ rows, ∀ name ∈ Json.Fields.names row, isPlainName name = true) ∧
      next = { query with verb := .insert, rows := rows } := by
  unfold insertMany
  constructor
  · intro h
    split at h
    · cases h
    · rename_i hne
      obtain ⟨rows, hrows, h⟩ := exists_of_bind_eq_ok h
      cases h
      exact ⟨fun hnil => hne (hnil ▸ rfl), rows, documentRows_eq_ok_iff.mp hrows, rfl⟩
  · rintro ⟨hne, rows, hrows, rfl⟩
    have hempty : ¬ documents.isEmpty = true := fun hnil => hne (List.isEmpty_iff.mp hnil)
    rw [if_neg hempty, documentRows_eq_ok_iff.mpr hrows]
    rfl

/-! ## Order and limits -/

/-- Terms that are added are columns, and come after the ones there are. -/
lemma eq_of_addOrder {terms : List OrderTerm} (h : query.addOrder terms = .ok next) :
    (∀ term ∈ terms, isColumnPath term.column = true) ∧
      next = { query with order := query.order ++ terms } := by
  induction terms generalizing query with
  | nil =>
    refine ⟨List.forall_mem_nil _, ?_⟩
    rw [List.append_nil]
    exact (Except.ok.inj h).symm
  | cons term rest ih =>
    unfold addOrder at h
    split at h
    · rename_i hpath
      obtain ⟨hrest, rfl⟩ := ih h
      exact ⟨List.forall_mem_cons.mpr ⟨hpath, hrest⟩,
        congrArg (fun order => { query with order := order }) (List.append_cons _ _ _).symm⟩
    · cases h

lemma exists_of_addOrderNames {names : List Json} (h : query.addOrderNames names = .ok next) :
    ∃ terms, (∀ term ∈ terms, isColumnPath term.column = true) ∧
      next = { query with order := query.order ++ terms } := by
  induction names generalizing query with
  | nil =>
    refine ⟨[], List.forall_mem_nil _, ?_⟩
    rw [List.append_nil]
    exact (Except.ok.inj h).symm
  | cons name rest ih =>
    cases name with
    | string field =>
      rw [addOrderNames] at h
      obtain ⟨ordered, hordered, h⟩ := exists_of_bind_eq_ok h
      obtain ⟨hfirst, rfl⟩ := eq_of_addOrder hordered
      obtain ⟨terms, hterms, rfl⟩ := ih h
      exact ⟨[.ofSpec field] ++ terms, List.forall_mem_append.mpr ⟨hfirst, hterms⟩,
        congrArg (fun order => { query with order := order }) (List.append_assoc _ _ _)⟩
    | _ => cases h

/-- So are the terms that a value is read as. -/
lemma exists_of_sort {spec : Json} (h : query.sort spec = .ok next) :
    ∃ terms, (∀ term ∈ terms, isColumnPath term.column = true) ∧
      next = { query with order := query.order ++ terms } := by
  unfold sort at h
  split at h
  · refine ⟨[], List.forall_mem_nil _, ?_⟩
    rw [List.append_nil]
    exact (Except.ok.inj h).symm
  · exact ⟨_, eq_of_addOrder h⟩
  · exact exists_of_addOrderNames h
  · exact ⟨_, eq_of_addOrder h⟩
  · cases h

/-- A value that is a number of rows takes the place of the limit. -/
lemma setLimit_eq (query : Query) (value : Json) :
    query.setLimit value = { query with limit := (rowCount? value).or query.limit } := by
  unfold setLimit
  cases rowCount? value <;> rfl

/-- A value that is a number of rows takes the place of the offset. -/
lemma setOffset_eq (query : Query) (value : Json) :
    query.setOffset value = { query with offset := (rowCount? value).or query.offset } := by
  unfold setOffset
  cases rowCount? value <;> rfl

/-! ## Finalization -/

/-- Finalization only writes down the conditions there are, unless it was done before. -/
lemma finalize_eq (query : Query) :
    query.finalize = { query with
      whereClause := if query.finalized then query.whereClause else query.condition
      finalized := true } := by
  unfold finalize
  split
  · rename_i hfinalized
    rw [← hfinalized]
  · rfl

@[simp] lemma finalized_finalize (query : Query) : query.finalize.finalized = true := by
  rw [finalize_eq]

@[simp] lemma condition_finalize (query : Query) : query.finalize.condition = query.condition := by
  rw [finalize_eq]

@[simp] lemma pendingField_finalize (query : Query) :
    query.finalize.pendingField = query.pendingField := by
  rw [finalize_eq]

@[simp] lemma verb_finalize (query : Query) : query.finalize.verb = query.verb := by
  rw [finalize_eq]

/-! ## Calls -/

/-- What a call with a filter document makes of a query before the condition of the document is
added. -/
inductive Prepares (query : Query) : QueryCall → Json → Query → Prop
  /-- Nothing is changed. -/
  | filter {document : Json} : Prepares query (.filter document) document query
  /-- A read of all records is set. -/
  | find {document : Json} : Prepares query (.find document) document
      { query with verb := .select, extent := .all }
  /-- A read of the first record is set, and nothing is skipped before it. -/
  | findOne {document : Json} : Prepares query (.findOne document) document
      { query with verb := .select, limit := some 1, offset := some 0, extent := .first }
  /-- The same is set for the document that gives the field `id` its value. -/
  | findById {id : Json} : Prepares query (.findById id) (.object [("id", id)])
      { query with verb := .select, limit := some 1, offset := some 0, extent := .first }
  /-- The assignments are set. -/
  | update {document : Json} {entries : Json.Fields}
    (hnames : ∀ name ∈ entries.names, isPlainName name = true) :
    Prepares query (.update document (.object entries)) document
      { query with
        verb := .update
        assignments := entries.map fun entry => (entry.1, Scalar.ofJson entry.2) }
  /-- A removal is set. -/
  | remove {document : Json} : Prepares query (.remove document) document
      { query with verb := .delete }
  /-- A count is set. -/
  | count {document : Json} : Prepares query (.count document) document
      { query with verb := .count }
  /-- The read of different values is set, of one column that takes the place of all others. -/
  | distinct {field : String} {document : Json} (hpath : isColumnPath field = true) :
    Prepares query (.distinct field document) document
      { query with verb := .distinct, extent := .all, columns := [field] }

/-- What a call that is not refused makes of a query, with the checks that it passed. -/
inductive Effect (query : Query) : QueryCall → Query → Prop
  /-- The verb and what belongs to it is set, and the condition of a filter document is added. -/
  | document {call : QueryCall} {document : Json} {prepared : Query} {condition : Option Condition}
    (hopen : query.finalized = false) (hprepares : Prepares query call document prepared)
    (hcompile : Filter.compile document = .ok condition) :
    Effect query call (prepared.collect condition)
  /-- A field is named. -/
  | onField {field : String} (hopen : query.finalized = false) (hpath : isColumnPath field = true) :
    Effect query (.onField field) { query with pendingField := some field }
  /-- The field that waits is compared. -/
  | compare {comparator : Comparator} {value : Json} {field : String} {operand : Operand}
    {comparison : Comparison} (hopen : query.finalized = false)
    (hpending : query.pendingField = some field)
    (hread : Operand.ofJson comparator value = .ok operand)
    (hmake : Comparison.make field comparator operand = .ok comparison) :
    Effect query (.compare comparator value)
      ({ query with pendingField := none }.addCondition (.comparison comparison))
  /-- A field is compared, whatever field waits. -/
  | compareField {field : String} {comparator : Comparator} {value : Json} {operand : Operand}
    {comparison : Comparison} (hopen : query.finalized = false) (hpath : isColumnPath field = true)
    (hread : Operand.ofJson comparator value = .ok operand)
    (hmake : Comparison.make field comparator operand = .ok comparison) :
    Effect query (.compareField field comparator value)
      ({ query with pendingField := none }.addCondition (.comparison comparison))
  /-- Columns are added, but for the star. -/
  | select {columns : List String}
    (hpaths : ∀ column ∈ columns.filter (· ≠ "*"), isColumnPath column = true) :
    Effect query (.select columns)
      { query with columns := query.columns ++ columns.filter (· ≠ "*") }
  /-- The insertion of one row is set. -/
  | insert {row : Row} (hnames : ∀ name ∈ Json.Fields.names row, isPlainName name = true) :
    Effect query (.insert (.object row)) { query with verb := .insert, rows := [row] }
  /-- The insertion of rows is set, at least one. -/
  | insertMany {rows : List Row} (hne : rows ≠ [])
    (hnames : ∀ row ∈ rows, ∀ name ∈ Json.Fields.names row, isPlainName name = true) :
    Effect query (.insertMany (rows.map .object)) { query with verb := .insert, rows := rows }
  /-- The limit is set, if the value is a number of rows. -/
  | limit {value : Json} :
    Effect query (.limit value) { query with limit := (rowCount? value).or query.limit }
  /-- The offset is set, if the value is a number of rows. -/
  | offset {value : Json} :
    Effect query (.offset value) { query with offset := (rowCount? value).or query.offset }
  /-- Terms are added to the order. -/
  | sort {spec : Json} {terms : List OrderTerm}
    (hpaths : ∀ term ∈ terms, isColumnPath term.column = true) :
    Effect query (.sort spec) { query with order := query.order ++ terms }
  /-- One term is added to the order. -/
  | orderBy {spec : String} (hpath : isColumnPath (OrderTerm.ofSpec spec).column = true) :
    Effect query (.orderBy spec) { query with order := query.order ++ [.ofSpec spec] }
  /-- The conditions are fixed. -/
  | finalize : Effect query .finalize query.finalize

variable {call : QueryCall} {document : Json}

/-- What is set before the condition leaves the conditions as they are. -/
lemma Prepares.conditions_eq {prepared : Query} (h : Prepares query call document prepared) :
    prepared.condition = query.condition ∧ prepared.pendingField = query.pendingField ∧
      prepared.finalized = query.finalized := by
  cases h <;> exact ⟨rfl, rfl, rfl⟩

/-- A filter document after what was set before it. -/
lemma Prepares.effect {prepared : Query} (hprepares : Prepares query call document prepared)
    (h : prepared.filter document = .ok next) : Effect query call next := by
  obtain ⟨hopen, condition, hcompile, rfl⟩ := eq_collect_of_filter h
  exact .document (hprepares.conditions_eq.2.2 ▸ hopen) hprepares hcompile

/-- The limits of a read of the first record make no difference to its conditions. -/
lemma eq_collect_of_findOne (h : query.findOne document = .ok next) :
    query.finalized = false ∧ ∃ condition, Filter.compile document = .ok condition ∧
      next = collect
        { query with verb := .select, limit := some 1, offset := some 0, extent := .first }
        condition := by
  unfold findOne at h
  obtain ⟨found, hfound, h⟩ := exists_of_bind_eq_ok h
  obtain ⟨hopen, condition, hcompile, rfl⟩ := eq_collect_of_filter hfound
  refine ⟨hopen, condition, hcompile, (Except.ok.inj h).symm.trans ?_⟩
  cases condition <;> rfl

/-- Every call that is not refused has the effect that is told for it. -/
lemma effect_of_call (h : query.call call = .ok next) : Effect query call next := by
  cases call with
  | filter document => exact Prepares.filter.effect h
  | find document => exact Prepares.find.effect h
  | findOne document =>
    obtain ⟨hopen, condition, hcompile, rfl⟩ := eq_collect_of_findOne h
    exact .document hopen .findOne hcompile
  | findById id =>
    obtain ⟨hopen, condition, hcompile, rfl⟩ := eq_collect_of_findOne h
    exact .document hopen .findById hcompile
  | update document assignments =>
    cases assignments with
    | object entries =>
      obtain ⟨_, hnames, h⟩ := exists_of_bind_eq_ok h
      exact (Prepares.update (requireColumns_eq_ok_iff.mp hnames)).effect h
    | _ => cases h
  | remove document => exact Prepares.remove.effect h
  | count document => exact Prepares.count.effect h
  | distinct field document =>
    rw [call, distinct] at h
    split at h
    · rename_i hpath
      exact (Prepares.distinct hpath).effect h
    · cases h
  | onField field =>
    obtain ⟨hopen, hpath, rfl⟩ := eq_of_onField h
    exact .onField hopen hpath
  | compare comparator value =>
    obtain ⟨hopen, field, operand, comparison, hpending, hread, hmake, rfl⟩ := exists_of_compare h
    exact .compare hopen hpending hread hmake
  | compareField field comparator value =>
    obtain ⟨named, hnamed, hcompare⟩ := exists_of_bind_eq_ok h
    obtain ⟨hopen, hpath, rfl⟩ := eq_of_onField hnamed
    obtain ⟨-, compared, operand, comparison, hpending, hread, hmake, rfl⟩ :=
      exists_of_compare hcompare
    obtain rfl : field = compared := Option.some.inj hpending
    exact .compareField hopen hpath hread hmake
  | select columns =>
    obtain ⟨hpaths, rfl⟩ := eq_of_select h
    exact .select hpaths
  | insert document =>
    have hmany : query.insertMany [document] = .ok next := h
    obtain ⟨-, rows, ⟨hrows, hnames⟩, rfl⟩ := insertMany_eq_ok_iff.mp hmany
    obtain ⟨row, rfl, rfl⟩ := List.map_eq_singleton_iff.mp hrows.symm
    exact .insert (hnames row List.mem_cons_self)
  | insertMany documents =>
    obtain ⟨hne, rows, ⟨rfl, hnames⟩, rfl⟩ := insertMany_eq_ok_iff.mp h
    exact .insertMany (fun hnil => hne (List.map_eq_nil_iff.mpr hnil)) hnames
  | limit value =>
    rw [call, setLimit_eq] at h
    cases h
    exact .limit
  | offset value =>
    rw [call, setOffset_eq] at h
    cases h
    exact .offset
  | sort spec =>
    obtain ⟨terms, hpaths, rfl⟩ := exists_of_sort h
    exact .sort hpaths
  | orderBy spec =>
    obtain ⟨hpaths, rfl⟩ := eq_of_addOrder h
    exact .orderBy (hpaths _ List.mem_cons_self)
  | finalize =>
    cases h
    exact .finalize

end Query

end DocTables
