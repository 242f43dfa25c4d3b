import DocTables.Proofs.Query.CallEffects
import DocTables.Proofs.Query.WellFormed
import Mathlib.Logic.Relation

/-!
# Edits of queries

There are many calls on queries, and most of them do several things at once.  Each of these is an
edit of one part of the query, with the check that the call makes before it (`Query.Edit`).  The
effect of a call is made of edits (`edits_of_call`), so a chain of calls that is not refused is a
chain of edits (`edits_of_callAll`), and what every edit keeps, every chain of calls keeps.

This is used for the form of queries: their names were checked, their conditions have the form of
conditions, and these are fixed when the query is finalized (`WellFormed.callAll`).
-/

namespace DocTables

namespace Query

/-! ## Edits -/

/-- A change to one part of a query. -/
inductive Edit (query : Query) : Query → Prop
  /-- A verb is set that needs neither rows nor a column. -/
  | verb {verb : Verb} (hinsert : verb ≠ .insert) (hdistinct : verb ≠ .distinct) :
    Edit query { query with verb := verb }
  /-- A read of all records is set. -/
  | everyRecord : Edit query { query with extent := .all }
  /-- A read of the first record is set, and nothing is skipped before it. -/
  | firstRecord : Edit query { query with limit := some 1, offset := some 0, extent := .first }
  /-- A column is added. -/
  | column {column : String} (h : isColumnPath column = true) :
    Edit query { query with columns := query.columns ++ [column] }
  /-- The read of different values is set, of one column that takes the place of all others. -/
  | distinct {column : String} (h : isColumnPath column = true) :
    Edit query { query with verb := .distinct, columns := [column] }
  /-- The insertion of rows is set, at least one. -/
  | insert {rows : List Row} (hne : rows ≠ [])
    (h : ∀ row ∈ rows, ∀ name ∈ Json.Fields.names row, isPlainName name = true) :
    Edit query { query with verb := .insert, rows := rows }
  /-- The assignments are set. -/
  | assignments {assignments : List (String × Scalar)}
    (h : ∀ assignment ∈ assignments, isPlainName assignment.1 = true) :
    Edit query { query with assignments := assignments }
  /-- A field is named, or none is left. -/
  | pending {field : Option String} (h : ∀ named ∈ field, isColumnPath named = true) :
    Edit query { query with pendingField := field }
  /-- A condition is added while the conditions are not fixed. -/
  | condition {condition : Condition} (hopen : query.finalized = false)
    (h : condition.WellFormed) : Edit query (query.addCondition condition)
  /-- A term is added to the order. -/
  | order {term : OrderTerm} (h : isColumnPath term.column = true) :
    Edit query { query with order := query.order ++ [term] }
  /-- The limit is set. -/
  | limit (n : Int) : Edit query { query with limit := some n }
  /-- The offset is set. -/
  | offset (n : Int) : Edit query { query with offset := some n }
  /-- The conditions are fixed. -/
  | finalize : Edit query query.finalize

/-- A chain of edits. -/
abbrev Edits : Query → Query → Prop := Relation.ReflTransGen Edit

variable {query next : Query}

/-! ## Calls as edits -/

/-- What is set before the condition of a filter document is set by edits. -/
lemma Prepares.edits {call : QueryCall} {document : Json} (h : Prepares query call document next) :
    Edits query next := by
  have hverb : ∀ {verb : Verb}, verb ≠ .insert → verb ≠ .distinct →
      Edits query { query with verb := verb } :=
    fun hinsert hdistinct => .single (.verb hinsert hdistinct)
  cases h with
  | filter => exact .refl
  | find => exact (hverb (by decide) (by decide)).tail .everyRecord
  | findOne | findById => exact (hverb (by decide) (by decide)).tail .firstRecord
  | @update document entries hnames =>
    have hassigned : ∀ assignment ∈ entries.map fun entry => (entry.1, Scalar.ofJson entry.2),
        isPlainName assignment.1 = true := by
      intro assignment hassignment
      obtain ⟨entry, hentry, rfl⟩ := List.mem_map.mp hassignment
      exact hnames entry.1 (List.mem_map_of_mem hentry)
    exact (hverb (by decide) (by decide)).tail (.assignments hassigned)
  | remove | count => exact hverb (by decide) (by decide)
  | distinct hpath => exact (Relation.ReflTransGen.single (.distinct hpath)).tail .everyRecord

/-- A condition of a filter document is added by an edit. -/
lemma edits_collect {document : Json} {condition : Option Condition}
    (hopen : query.finalized = false) (hcompile : Filter.compile document = .ok condition) :
    Edits query (query.collect condition) := by
  cases condition with
  | none => exact .refl
  | some condition =>
    exact .single (.condition hopen (Filter.wellFormed_of_compileJoined hcompile))

/-- So is a comparison, which leaves no field to wait. -/
lemma edits_compared {field : String} {comparator : Comparator} {operand : Operand}
    {comparison : Comparison} (hopen : query.finalized = false)
    (hmake : Comparison.make field comparator operand = .ok comparison) :
    Edits query ({ query with pendingField := none }.addCondition (.comparison comparison)) := by
  have hpending : Edit query { query with pendingField := none } :=
    .pending fun named hnamed => by cases hnamed
  exact (Relation.ReflTransGen.single hpending).tail
    (.condition hopen (Comparison.wellFormed_of_make hmake))

/-- Columns are added one by one. -/
lemma edits_columns {columns : List String}
    (h : ∀ column ∈ columns, isColumnPath column = true) :
    Edits query { query with columns := query.columns ++ columns } := by
  induction columns generalizing query with
  | nil =>
    rw [List.append_nil]
  | cons column rest ih =>
    obtain ⟨hcolumn, hrest⟩ := List.forall_mem_cons.mp h
    rw [List.append_cons]
    exact .head (.column hcolumn) (ih hrest)

/-- So are terms of the order. -/
lemma edits_order {terms : List OrderTerm}
    (h : ∀ term ∈ terms, isColumnPath term.column = true) :
    Edits query { query with order := query.order ++ terms } := by
  induction terms generalizing query with
  | nil =>
    rw [List.append_nil]
  | cons term rest ih =>
    obtain ⟨hterm, hrest⟩ := List.forall_mem_cons.mp h
    rw [List.append_cons]
    exact .head (.order hterm) (ih hrest)

/-- Every call that is not refused is a chain of edits. -/
lemma edits_of_call {call : QueryCall} (h : query.call call = .ok next) : Edits query next := by
  cases effect_of_call h with
  | document hopen hprepares hcompile =>
    exact hprepares.edits.trans
      (edits_collect (hprepares.conditions_eq.2.2.trans hopen) hcompile)
  | onField _ hpath =>
    refine .single (.pending fun named hnamed => ?_)
    rwa [← Option.some.inj hnamed]
  | compare hopen _ _ hmake => exact edits_compared hopen hmake
  | compareField hopen _ _ hmake => exact edits_compared hopen hmake
  | select hpaths => exact edits_columns hpaths
  | insert hnames =>
    exact .single (.insert (List.cons_ne_nil _ _) (List.forall_mem_singleton.mpr hnames))
  | insertMany hne hnames => exact .single (.insert hne hnames)
  | @limit value =>
    cases rowCount? value with
    | none => exact .refl
    | some n => exact .single (.limit n)
  | @offset value =>
    cases rowCount? value with
    | none => exact .refl
    | some n => exact .single (.offset n)
  | sort hpaths => exact edits_order hpaths
  | orderBy hpath => exact .single (.order hpath)
  | finalize => exact .single .finalize

/-- So is every chain of calls. -/
lemma edits_of_callAll {calls : List QueryCall} (h : query.callAll calls = .ok next) :
    Edits query next := by
  induction calls generalizing query with
  | nil =>
    cases h
    exact .refl
  | cons first rest ih =>
    obtain ⟨called, hcalled, hrest⟩ := exists_of_bind_eq_ok h
    exact (edits_of_call hcalled).trans (ih hrest)

/-! ## The form of queries -/

/-- All names of a query were checked, an insertion has a row, a read of different values a column,
and a read of the first record both limits; its conditions have the form of conditions, and they are
fixed just if the query was finalized. -/
structure WellFormed (query : Query) : Prop where
  table : isPlainName query.table = true
  columns : ∀ column ∈ query.columns, isColumnPath column = true
  order : ∀ term ∈ query.order, isColumnPath term.column = true
  pending : ∀ field ∈ query.pendingField, isColumnPath field = true
  rows : ∀ row ∈ query.rows, ∀ name ∈ Json.Fields.names row, isPlainName name = true
  insertion : query.verb = .insert → query.rows ≠ []
  distinction : query.verb = .distinct → query.columns ≠ []
  single : query.extent = .first → query.limit.isSome = true ∧ query.offset.isSome = true
  assignments : ∀ assignment ∈ query.assignments, isPlainName assignment.1 = true
  collected : ∀ condition, query.condition = some condition → condition.WellFormed
  fixed : query.whereClause = if query.finalized then query.condition else none

/-- A query on a table starts as the read of all its rows. -/
lemma eq_of_ofTable {table : String} (h : ofTable table = .ok query) : isPlainName table = true ∧
    query = ⟨.select, table, [], none, none, [], none, none, [], [], none, false, .all⟩ := by
  unfold ofTable at h
  split at h
  · rename_i hname
    cases h
    exact ⟨hname, rfl⟩
  · cases h

/-- A query starts without conditions. -/
lemma wellFormed_of_ofTable {table : String} (h : ofTable table = .ok query) :
    query.WellFormed := by
  obtain ⟨hname, rfl⟩ := eq_of_ofTable h
  exact {
    table := hname
    columns := List.forall_mem_nil _
    order := List.forall_mem_nil _
    pending := fun field hfield => by cases hfield
    rows := List.forall_mem_nil _
    insertion := fun hverb => by cases hverb
    distinction := fun hverb => by cases hverb
    single := fun hextent => by cases hextent
    assignments := List.forall_mem_nil _
    collected := fun condition hcondition => by cases hcondition
    fixed := rfl }

/-- Every edit keeps the form. -/
lemma WellFormed.edit (h : query.WellFormed) (hedit : Edit query next) : next.WellFormed := by
  cases hedit with
  | verb hinsert hdistinct =>
    exact { h with
      insertion := fun heq => absurd heq hinsert
      distinction := fun heq => absurd heq hdistinct }
  | everyRecord =>
    exact { h with single := fun heq => by cases heq }
  | firstRecord =>
    exact { h with single := fun _ => ⟨rfl, rfl⟩ }
  | column hpath =>
    exact { h with
      columns := List.forall_mem_append.mpr ⟨h.columns, List.forall_mem_singleton.mpr hpath⟩
      distinction := fun _ => List.append_ne_nil_of_right_ne_nil _ (List.cons_ne_nil _ _) }
  | distinct hpath =>
    exact { h with
      columns := List.forall_mem_singleton.mpr hpath
      insertion := fun heq => by cases heq
      distinction := fun _ => List.cons_ne_nil _ _ }
  | insert hne hnames =>
    exact { h with
      rows := hnames
      insertion := fun _ => hne
      distinction := fun heq => by cases heq }
  | assignments hnames =>
    exact { h with assignments := hnames }
  | pending hpath =>
    exact { h with pending := hpath }
  | @condition condition hopen hcondition =>
    have hfixed := h.fixed
    rw [hopen] at hfixed
    refine { h with
      collected := fun collected heq => ?_
      fixed := by simpa [addCondition, hopen] using hfixed }
    have hadded := Option.some.inj heq
    split at hadded
    · exact hadded ▸ hcondition
    · rename_i present hpresent
      exact hadded ▸ (h.collected present hpresent).and hcondition
  | order hpath =>
    exact { h with
      order := List.forall_mem_append.mpr ⟨h.order, List.forall_mem_singleton.mpr hpath⟩ }
  | limit n =>
    exact { h with single := fun heq => ⟨rfl, (h.single heq).2⟩ }
  | offset n =>
    exact { h with single := fun heq => ⟨(h.single heq).1, rfl⟩ }
  | finalize =>
    unfold Query.finalize
    split
    · exact h
    · exact { h with fixed := rfl }

/-- Every chain of edits keeps the form. -/
lemma WellFormed.edits (h : query.WellFormed) (hedits : Edits query next) : next.WellFormed := by
  induction hedits with
  | refl => exact h
  | tail _ hedit ih => exact ih.edit hedit

/-- Every chain of calls keeps the form. -/
lemma WellFormed.callAll {calls : List QueryCall} (h : query.WellFormed)
    (hcalls : query.callAll calls = .ok next) : next.WellFormed :=
  h.edits (edits_of_callAll hcalls)

/-- The conditions that were fixed are those that were collected. -/
lemma WellFormed.condition_of_whereClause {condition : Condition} (h : query.WellFormed)
    (hwhere : query.whereClause = some condition) : query.condition = some condition := by
  have hfixed := h.fixed
  rw [hwhere] at hfixed
  split at hfixed
  · exact hfixed.symm
  · cases hfixed

end Query

end DocTables
