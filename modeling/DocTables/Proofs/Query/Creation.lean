import DocTables.Model
import DocTables.Proofs.Json.WellFormed
import DocTables.Proofs.Query.Insertion

/-!
# Documents that are created

A model makes two things of a document: the insertion that stores it, and the draft of its record.
The insertion looks every declared property up in the document and falls back on its default; the
draft starts from the defaults and sets the fields of the document one after the other.  What is
written is what the draft shows (`Model.created_as_drafted`): a declared property that the statement
leaves out is `null` in the draft, and no default of its column takes the place of `NULL`.
-/

namespace DocTables

/-! ## Fields that are set one after the other -/

namespace Json.Fields

variable {given : Fields} {name : String}

/-- A value is found just for the keys that there are. -/
lemma isSome_get?_iff {fields : Fields} :
    (fields.get? name).isSome = true ↔ name ∈ fields.names := by
  refine ⟨fun h => ?_, fun h => Option.isSome_iff_exists.mpr (exists_get? h)⟩
  by_contra hname
  rw [get?_eq_none hname] at h
  cases h

/-- The first entry of fields is found by its key. -/
lemma get?_cons (key : String) (value : Json) (rest : Fields) :
    get? ((key, value) :: rest) name = if name = key then some value else rest.get? name := by
  unfold get?
  by_cases h : name = key
  · rw [if_pos h, h]
    exact List.lookup_cons_self
  · have hne : (name == key) = false := beq_eq_false_iff_ne.mpr h
    rw [List.lookup_cons, hne, if_neg h]

/-- Setting a key changes the value of this key alone. -/
lemma get?_put (key : String) (value : Json) (fields : Fields) :
    (put key value fields).get? name = if name = key then some value else fields.get? name := by
  induction fields with
  | nil => exact get?_cons key value []
  | cons first rest ih =>
    obtain ⟨other, old⟩ := first
    rw [put]
    split
    · rename_i hother
      rw [get?_cons, get?_cons, hother]
      split <;> rfl
    · rename_i hother
      rw [get?_cons, get?_cons, ih]
      split
      · rename_i hname
        rw [if_neg fun hkey => hother (hname.symm.trans hkey)]
      · rfl

/-- The fields that result from setting entries one after the other. -/
def overlay (fields entries : Fields) : Fields :=
  entries.foldl (fun fields entry => put entry.1 entry.2 fields) fields

/-- The keys that are new come last. -/
lemma names_overlay (hgiven : given.names.Nodup) (fields : Fields) :
    (fields.overlay given).names = fields.names ++ given.names.filter (· ∉ fields.names) := by
  induction given generalizing fields with
  | nil => exact (List.append_nil _).symm
  | cons first rest ih =>
    obtain ⟨key, value⟩ := first
    obtain ⟨hkey, hrest⟩ := List.nodup_cons.mp hgiven
    have hnames : names ((key, value) :: rest) = key :: names rest := rfl
    change ((put key value fields).overlay rest).names = _
    rw [ih hrest, names_put, hnames]
    split
    · rename_i hpresent
      rw [List.filter_cons_of_neg (by simpa using hpresent)]
    · rename_i hnew
      -- the key does not come again, so what is new after it is what was new before
      have hothers : (names rest).filter (· ∉ fields.names ++ [key]) =
          (names rest).filter (· ∉ fields.names) := by
        refine List.filter_congr fun other hother => ?_
        have hne : other ≠ key := fun heq => hkey (heq ▸ hother)
        simp [hne]
      rw [List.filter_cons_of_pos (by simpa using hnew), hothers, List.append_assoc]
      rfl

/-- The value of a key is the one that was set, if it was. -/
lemma get?_overlay (hgiven : given.names.Nodup) (fields : Fields) :
    (fields.overlay given).get? name = (given.get? name).or (fields.get? name) := by
  induction given generalizing fields with
  | nil => rfl
  | cons first rest ih =>
    obtain ⟨key, value⟩ := first
    obtain ⟨hkey, hrest⟩ := List.nodup_cons.mp hgiven
    change ((put key value fields).overlay rest).get? name = _
    rw [ih hrest, get?_put, get?_cons]
    split
    · rename_i hname
      rw [get?_eq_none (hname ▸ hkey)]
      rfl
    · rfl

end Json.Fields

/-! ## Single rows -/

namespace Query

variable {table : String} {start : Query} {row : Row}

/-- A row whose keys are plain and different is inserted under them; one without keys is a row of
defaults. -/
lemma exists_render_of_insert (hstart : ofTable table = .ok start)
    (hnames : (Json.Fields.names row).Nodup)
    (hplain : ∀ name ∈ Json.Fields.names row, isPlainName name = true) :
    ∃ inserted sql, start.insert (.object row) = .ok inserted ∧ inserted.render = .ok sql ∧
      StatementParts.ofText? sql = some {
        verb := .insert, table := table, columns := Json.Fields.names row
        rows := [(Json.Fields.names row).map (cellText row)] } := by
  have htable : isPlainName table = true := (eq_of_ofTable hstart).1
  have hrows : ∀ other ∈ [row], ∀ name ∈ Json.Fields.names other, isPlainName name = true :=
    List.forall_mem_singleton.mpr hplain
  have hinsert : start.insert (.object row) = .ok { start with verb := .insert, rows := [row] } :=
    insertMany_eq_ok_iff.mpr ⟨List.cons_ne_nil _ _, [row], ⟨rfl, hrows⟩, rfl⟩
  by_cases hkeys : row = []
  · subst hkeys
    have hdefaults : (QueryStatement.insertDefaults table).WellFormed := .insertDefaults htable
    exact ⟨_, _, hinsert, render_of_rows hstart, hdefaults.ofText?_sql⟩
  · obtain ⟨statement, hstatement, -, hread⟩ :=
      exists_insertStatement htable hrows ⟨row, List.mem_singleton_self row, hkeys⟩
    rw [columnUnion_singleton hnames] at hread
    refine ⟨_, statement.sql, hinsert, ?_, hread⟩
    rw [render_of_rows hstart, hstatement]
    rfl

end Query

namespace Model

variable {model : Model} {document : Json.Fields} {properties : List Property} {name : String}

/-! ## Models -/

/-- The models that there are: one is kept in the table named after it, or in another one. -/
inductive Described : Model → Prop
  /-- A model is made with its table. -/
  | ofModel {name : String} {properties : PropertySet} {model : Model}
    (hmodel : Model.ofModel name properties = .ok model) : Described model
  /-- A model is moved to another table. -/
  | withTable {model moved : Model} {table : String} (hmodel : Described model)
    (hmoved : model.withTable table = .ok moved) : Described moved

/-- A table that a model was made with has a plain name. -/
lemma isPlainName_of_inTable {name table : String} {properties : PropertySet}
    (h : inTable name table properties = .ok model) : isPlainName model.table = true := by
  unfold inTable at h
  split at h
  · rename_i htable
    cases h
    exact htable
  · cases h

/-- The table of a model has a plain name. -/
lemma Described.isPlainName_table (h : model.Described) : isPlainName model.table = true := by
  cases h with
  | ofModel hmodel => exact isPlainName_of_inTable hmodel
  | withTable _ hmoved => exact isPlainName_of_inTable hmoved

/-! ## Drafts -/

/-- The fields of a draft before those of the document are set. -/
def blankFields (properties : List Property) : Json.Fields :=
  properties.map fun property => (property.name, property.defaultValue)

lemma names_blankFields (properties : List Property) :
    (blankFields properties).names = properties.map Property.name := by
  rw [Json.Fields.names, blankFields, List.map_map]
  rfl

/-- The fields of the document are set over them. -/
lemma fields_draft (model : Model) (document : Json.Fields) :
    (model.draft (.object document)).fields =
      Json.Fields.overlay (Json.Fields.overlay [] (blankFields model.properties.toList)) document :=
  List.foldl_append

/-- A draft has the declared fields in their order, and after them the other ones of the
document. -/
lemma names_draft (hdocument : document.names.Nodup) :
    (model.draft (.object document)).fields.names =
      model.properties.names ++ document.names.filter (· ∉ model.properties.names) := by
  have hblank := names_blankFields model.properties.toList
  have hdeclared : (Json.Fields.overlay [] (blankFields model.properties.toList)).names =
      model.properties.names := by
    rw [Json.Fields.names_overlay (hblank ▸ model.properties.names_nodup), hblank]
    exact List.filter_eq_self.mpr fun name _ => decide_eq_true List.not_mem_nil
  rw [fields_draft, Json.Fields.names_overlay hdocument, hdeclared]

/-- A field of a draft is that of the document, or the default. -/
lemma get?_draft (hdocument : document.names.Nodup) :
    (model.draft (.object document)).fields.get? name =
      (document.get? name).or ((blankFields model.properties.toList).get? name) := by
  have hblank := names_blankFields model.properties.toList
  have hnone : Json.Fields.get? [] name = none := rfl
  rw [fields_draft, Json.Fields.get?_overlay hdocument,
    Json.Fields.get?_overlay (hblank ▸ model.properties.names_nodup), hnone, Option.or_none]

/-- A declared field of a draft is that of the document, the default or `null`. -/
lemma get?_draft_of_mem (hdocument : document.names.Nodup) {property : Property}
    (hproperty : property ∈ model.properties.toList) :
    (model.draft (.object document)).fields.get? property.name =
      some ((document.get? property.name).getD property.defaultValue) := by
  have hblank : Json.Fields.get? (blankFields model.properties.toList) property.name =
      some property.defaultValue := by
    have hmem : (property.name, property.defaultValue) ∈ blankFields model.properties.toList :=
      List.mem_map_of_mem hproperty
    refine Json.Fields.get?_of_mem ?_ hmem
    rw [names_blankFields]
    exact model.properties.names_nodup
  rw [get?_draft hdocument, hblank]
  cases document.get? property.name <;> rfl

/-- Every field of the document is kept as it is. -/
lemma get?_draft_of_entry (hdocument : document.names.Nodup) {entry : String × Json}
    (hentry : entry ∈ document) : (model.draft (.object document)).fields.get? entry.1 =
      some entry.2 := by
  rw [get?_draft hdocument, Json.Fields.get?_of_mem hdocument hentry]
  rfl

/-! ## Insertions -/

/-- What an insertion stores of a property, if it stores anything. -/
def given? (document : Json.Fields) (property : Property) : Option Json :=
  (document.get? property.name).or property.default

/-- Nothing is stored of a property just if the document lacks it and it has no default. -/
lemma isSome_given?_iff {property : Property} :
    (given? document property).isSome = true ↔
      property.name ∈ document.names ∨ property.default.isSome = true := by
  rw [given?, Option.isSome_or, Bool.or_eq_true, Json.Fields.isSome_get?_iff]

/-- The fields that are stored are the declared ones of which something is stored. -/
lemma declaredFields_eq (properties : List Property) (document : Json.Fields) :
    declaredFields properties document =
      properties.filterMap fun property => (given? document property).map (property.name, ·) := by
  refine List.filterMap_congr fun property _ => ?_
  rw [given?]
  cases document.get? property.name <;> rfl

/-- Their names are in the order of declaration. -/
lemma names_declaredFields (properties : List Property) (document : Json.Fields) :
    Json.Fields.names (declaredFields properties document) =
      (properties.filter fun property => (given? document property).isSome).map Property.name := by
  induction properties with
  | nil => rfl
  | cons first rest ih =>
    rw [declaredFields_eq] at ih ⊢
    cases hgiven : given? document first with
    | none =>
      rw [List.filterMap_cons_none (by rw [hgiven]; rfl),
        List.filter_cons_of_neg (by rw [hgiven]; exact Bool.false_ne_true), ih]
    | some value =>
      rw [List.filterMap_cons_some (by rw [hgiven]; rfl),
        List.filter_cons_of_pos (by rw [hgiven]; rfl), List.map_cons, ← ih]
      rfl

/-- What is stored of a declared property is found under its name. -/
lemma get?_declaredFields (hnames : (properties.map Property.name).Nodup) {property : Property}
    (hproperty : property ∈ properties) :
    Json.Fields.get? (declaredFields properties document) property.name =
      given? document property := by
  have hfields : (Json.Fields.names (declaredFields properties document)).Nodup := by
    rw [names_declaredFields]
    exact hnames.sublist (List.filter_sublist.map _)
  cases hgiven : given? document property with
  | some value =>
    have hmem : (property.name, value) ∈ declaredFields properties document := by
      rw [declaredFields_eq, List.mem_filterMap]
      exact ⟨property, hproperty, by rw [hgiven]; rfl⟩
    exact Json.Fields.get?_of_mem hfields hmem
  | none =>
    refine Json.Fields.get?_eq_none fun hname => ?_
    rw [names_declaredFields] at hname
    obtain ⟨other, hother, hsame⟩ := List.mem_map.mp hname
    obtain ⟨hmem, hsome⟩ := List.mem_filter.mp hother
    rw [List.inj_on_of_nodup_map hnames hmem hproperty hsame, hgiven] at hsome
    cases hsome

/-- What is stored of a declared property is what the draft has. -/
lemma cellText_declaredFields (hdocument : document.names.Nodup) {property : Property}
    (hproperty : property ∈ model.properties.toList)
    (hgiven : (given? document property).isSome = true) :
    Query.cellText (declaredFields model.properties.toList document) property.name =
      Query.cellText (model.draft (.object document)).fields property.name := by
  have hstored : (given? document property) =
      some ((document.get? property.name).getD property.defaultValue) := by
    unfold given? Property.defaultValue at *
    cases hvalue : document.get? property.name with
    | some value => rfl
    | none =>
      rw [hvalue, Option.none_or] at hgiven
      rw [Option.none_or, Option.getD_none]
      exact (Option.some_get hgiven).symm.trans (congrArg some (Option.get_eq_getD _))
  rw [Query.cellText, Query.cellText, get?_declaredFields model.properties.names_nodup hproperty,
    hstored, get?_draft_of_mem hdocument hproperty]

/-- What the columns of an insertion and the fields of a draft have in common if both come from one
document. -/
structure DraftOf (model : Model) (document : Json.Fields) (columns : List String)
    (fields : Json.Fields) : Prop where
  /-- The columns are in the order of declaration. -/
  columns_sublist : columns.Sublist model.properties.names
  /-- No column occurs twice. -/
  columns_nodup : columns.Nodup
  /-- There is a column for a declared property that the document has or that has a default. -/
  mem_columns_iff : ∀ property ∈ model.properties.toList,
    property.name ∈ columns ↔ property.name ∈ document.names ∨ property.default.isSome = true
  /-- A declared property has the value of the document, the default or `null`. -/
  get?_declared : ∀ property ∈ model.properties.toList, fields.get? property.name =
    some ((document.get? property.name).getD property.defaultValue)
  /-- A declared property without a column is `null`, and so is what the table has for it. -/
  eq_null : ∀ property ∈ model.properties.toList, property.name ∉ columns →
    fields.get? property.name = some .null ∧ property.column.default = none
  /-- Any other key has no column and keeps its value. -/
  get?_undeclared : ∀ entry ∈ document, entry.1 ∉ model.properties.names →
    entry.1 ∉ columns ∧ fields.get? entry.1 = some entry.2
  /-- The declared properties come first, in their order, and then the other keys in theirs. -/
  names_eq : fields.names =
    model.properties.names ++ document.names.filter (· ∉ model.properties.names)

/-- The columns under which a document is stored and the fields of its draft belong together. -/
lemma draftOf (hdocument : document.names.Nodup) :
    DraftOf model document (Json.Fields.names (declaredFields model.properties.toList document))
      (model.draft (.object document)).fields := by
  have hsublist : (Json.Fields.names (declaredFields model.properties.toList document)).Sublist
      model.properties.names := by
    rw [names_declaredFields]
    exact List.filter_sublist.map _
  have hcolumns : ∀ property ∈ model.properties.toList,
      property.name ∈ Json.Fields.names (declaredFields model.properties.toList document) ↔
        property.name ∈ document.names ∨ property.default.isSome = true := by
    intro property hproperty
    rw [← isSome_given?_iff, ← get?_declaredFields model.properties.names_nodup hproperty]
    exact Json.Fields.isSome_get?_iff.symm
  refine ⟨hsublist, hsublist.nodup model.properties.names_nodup, hcolumns,
    fun property hproperty => get?_draft_of_mem hdocument hproperty, ?_, ?_, names_draft hdocument⟩
  · intro property hproperty hname
    rw [hcolumns property hproperty, not_or, Option.not_isSome_iff_eq_none] at hname
    obtain ⟨hmissing, hdefault⟩ := hname
    rw [get?_draft_of_mem hdocument hproperty, Json.Fields.get?_eq_none hmissing,
      Property.defaultValue, Property.column, hdefault]
    exact ⟨rfl, rfl⟩
  · intro entry hentry hother
    exact ⟨fun hname => hother (hsublist.subset hname), get?_draft_of_entry hdocument hentry⟩

/-- A document is always stored, and what is stored is what its draft shows.  The statement has a
column for every declared property that the document has or that has a default, in the order of
declaration, and writes into it the value of the draft.  A declared property without a column is
`null` in the draft and has no default in the table.  The other keys of the document are not
written, and the draft keeps them after the declared ones. -/
theorem created_as_drafted (hmodel : model.Described) (hdocument : document.names.Nodup) :
    ∃ created sql columns, model.create (.object document) = .ok created ∧
      created.render = .ok sql ∧
      StatementParts.ofText? sql = some {
        verb := .insert, table := model.table, columns := columns
        rows := [columns.map (Query.cellText (model.draft (.object document)).fields)] } ∧
      DraftOf model document columns (model.draft (.object document)).fields := by
  have hdraft : DraftOf model document _ _ := draftOf hdocument
  obtain ⟨start, hstart⟩ : ∃ start, Query.ofTable model.table = .ok start :=
    ⟨_, if_pos hmodel.isPlainName_table⟩
  have hplain : ∀ name ∈ Json.Fields.names (declaredFields model.properties.toList document),
      isPlainName name = true := by
    intro name hname
    obtain ⟨property, hproperty, rfl⟩ := List.mem_map.mp (hdraft.columns_sublist.subset hname)
    exact model.properties.names_valid property hproperty
  obtain ⟨created, sql, hinsert, hrender, hread⟩ :=
    Query.exists_render_of_insert hstart hdraft.columns_nodup hplain
  have hcells : (Json.Fields.names (declaredFields model.properties.toList document)).map
        (Query.cellText (declaredFields model.properties.toList document)) =
      (Json.Fields.names (declaredFields model.properties.toList document)).map
        (Query.cellText (model.draft (.object document)).fields) := by
    refine List.map_congr_left fun name hname => ?_
    rw [names_declaredFields] at hname
    obtain ⟨property, hproperty, rfl⟩ := List.mem_map.mp hname
    obtain ⟨hdeclared, hgiven⟩ := List.mem_filter.mp hproperty
    exact cellText_declaredFields hdocument hdeclared hgiven
  rw [hcells] at hread
  refine ⟨created, sql, _, ?_, hrender, hread, hdraft⟩
  rw [create, query, hstart]
  exact hinsert

/-- Properties with a default, with the default `null` and without one. -/
def guestProperties : PropertySet where
  toList := [.plain "guest" .string,
    { Property.plain "seats" .number with default := some (.number (.int 2)) },
    { Property.plain "title" .string with default := some .null }, .plain "contact" .string]
  names_valid := by
    simp only [List.forall_mem_cons]
    refine ⟨?_, ?_, ?_, ?_, List.forall_mem_nil _⟩
    all_goals decide +kernel
  names_nodup := by decide
  primaryKeys_le_one := by decide

/-- A document with a key that is not declared, and with `null` for a property that has a
default. -/
def guestDocument : Json.Fields :=
  [("note", .string "late"), ("seats", .null), ("guest", .string "Ada")]

/-- The `null` of the document is kept, and what the document lacks is its default or `null`. -/
theorem guest_created : ∃ made model created sql,
    ofModel "Visitor" guestProperties = .ok made ∧ made.withTable "guests" = .ok model ∧
    model.create (.object guestDocument) = .ok created ∧ created.render = .ok sql ∧
    sql = "INSERT INTO guests (guest, seats, title) VALUES (\x27Ada\x27, NULL, NULL)" ∧
    guestDocument.names.Nodup ∧
    ∃ columns, StatementParts.ofText? sql = some {
        verb := .insert, table := model.table, columns := columns
        rows := [columns.map (Query.cellText (model.draft (.object guestDocument)).fields)] } ∧
      DraftOf model guestDocument columns (model.draft (.object guestDocument)).fields := by
  have hrun : Except.toOption (do
      let made ← ofModel "Visitor" guestProperties
      let model ← made.withTable "guests"
      let created ← model.create (.object guestDocument)
      created.render) =
      some "INSERT INTO guests (guest, seats, title) VALUES (\x27Ada\x27, NULL, NULL)" := by
    decide +kernel
  obtain ⟨made, hmade, hrun⟩ := exists_of_bind_eq_ok (eq_ok_of_toOption hrun)
  obtain ⟨model, hmodel, hrun⟩ := exists_of_bind_eq_ok hrun
  obtain ⟨created, hcreated, hrender⟩ := exists_of_bind_eq_ok hrun
  have hnames : guestDocument.names.Nodup := by decide
  obtain ⟨created', sql, columns, hcreated', hsql, hread, hdraft⟩ :=
    created_as_drafted (.withTable (.ofModel hmade) hmodel) hnames
  obtain rfl := Except.ok.inj (hcreated.symm.trans hcreated')
  obtain rfl := Except.ok.inj (hrender.symm.trans hsql)
  exact ⟨made, model, created, _, hmade, hmodel, hcreated, hrender, rfl, hnames, columns, hread,
    hdraft⟩

end Model

end DocTables
