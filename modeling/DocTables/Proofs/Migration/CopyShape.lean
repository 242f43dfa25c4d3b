import DocTables.Migration.Copy
import DocTables.Proofs.Json.WellFormed
import DocTables.Proofs.Query.RoundTrip

/-!
# A copy reshapes as the check of keys does

Rows are reshaped twice: in memory, before their keys are checked, and inside the storage, by the
statement that copies them.  Both come to the same (`RowCopy.copied_as_reshaped`).  The lists of the
statement are read from its text here, item by item; an item is a column, which holds what the row
has for it, or a literal.

A literal does not tell of which kind of value it is the text: truth values are written as `1` and
`0`, and a binary number without a fraction is written as an integer.  So what is read from the text
is a literal, and the values are compared by the literals that they are written as; the sources of
the columns, before they are written, agree with the reshaped row exactly.
-/

namespace DocTables

open Scanning

/-! ## Sources of columns -/

namespace CopySource

/-- The scalar that a source gives for a row, which may lack the column. -/
def value? (row : Row) : CopySource → Option Scalar
  | .column name => (row.get? name).map Scalar.ofJson
  | .value v => some v

/-- The token that a source is written as. -/
def token : CopySource → SqlToken
  | .column name => .word name
  | .value v => v.written.token

/-- A source is written as one token, if its column has a plain name. -/
lemma spells_text {source : CopySource}
    (h : ∀ name, source = .column name → isPlainName name = true) :
    Spells source.text [source.token] := by
  cases source with
  | column name => exact spells_columnPath (isColumnPath_of_isPlainName (h name rfl))
  | value v => exact v.spells_literal

end CopySource

namespace RowCopy

/-! ## Lists in a statement -/

/-- Reads items with commas between them. -/
def readItems : List SqlToken → Option (List SqlToken)
  | [] => some []
  | [item] => some [item]
  | item :: .comma :: next :: rest => (readItems (next :: rest)).map (item :: ·)
  | _ => none

/-- The items of a list, by its text. -/
def items? (text : String) : Option (List SqlToken) := (sqlTokens? text).bind readItems

/-- The literal that an item of a select list comes to on a row: what the row has for a column is
written as a literal. -/
def itemValue? (row : Row) : SqlToken → Option Literal
  | .word name =>
    if name = "NULL" then some .null
    else (row.get? name).map fun value => (Scalar.ofJson value).written
  | item => LiteralCondition.literal? item

/-- What the columns of a statement are assigned on a row: each of them the item at its place. -/
def assigned? (row : Row) : List SqlToken → List SqlToken → Option (List (String × Literal))
  | [], [] => some []
  | .word column :: columns, item :: items =>
    match itemValue? row item, assigned? row columns items with
    | some value, some others => some ((column, value) :: others)
    | _, _ => none
  | _, _ => none

/-- Items with commas between them are read. -/
lemma readItems_intercalate (items : List SqlToken) :
    readItems ([.comma].intercalate (items.map fun item => [item])) = some items := by
  induction items with
  | nil => rfl
  | cons first rest ih =>
    cases rest with
    | nil => rfl
    | cons second others =>
      rw [List.map_cons, List.map_cons, List.intercalate_cons_cons]
      rw [List.map_cons] at ih
      have hhead : ∃ more,
          [SqlToken.comma].intercalate ([second] :: others.map fun item => [item]) =
          second :: more := by
        rw [intercalate_eq_append_flatMap]
        exact ⟨_, rfl⟩
      obtain ⟨more, hmore⟩ := hhead
      rw [hmore] at ih ⊢
      simp only [List.cons_append, List.nil_append]
      rw [readItems, ih]
      rfl

/-- The text of a list of tokens is read as these. -/
lemma items?_intercalate {α : Type} {entries : List α} {text : α → String} {token : α → SqlToken}
    (h : ∀ entry ∈ entries, Spells (text entry) [token entry]) :
    items? (", ".intercalate (entries.map text)) = some (entries.map token) := by
  have hcomma : Separates (", ") [.comma] := separates_comma.around spells_empty separates_blank
  have hall :
      List.Forall₂ Spells (entries.map text) ((entries.map token).map fun item => [item]) := by
    rw [List.map_map, List.forall₂_map_left_iff, List.forall₂_map_right_iff, List.forall₂_same]
    exact h
  rw [items?, (spells_intercalate hcomma hall).sqlTokens?, Option.bind_some, readItems_intercalate]

/-! ## Reshaping -/

variable {properties : PropertySet} {existing : List String} {row : Row}

/-- The source of the column of a property. -/
def sourceOf (existing : List String) (property : Property) : CopySource :=
  if property.name ∈ existing then .column property.name
  else .value (Scalar.ofJson property.defaultValue)

/-- The source of a property gives its value in the reshaped row. -/
lemma value?_sourceOf (hkeys : ∀ name, name ∈ Json.Fields.names row ↔ name ∈ existing)
    (property : Property) :
    (sourceOf existing property).value? row =
      some (Scalar.ofJson ((row.get? property.name).getD property.defaultValue)) := by
  unfold sourceOf
  split
  · rename_i hpresent
    obtain ⟨value, hvalue⟩ := Json.Fields.exists_get? ((hkeys property.name).mpr hpresent)
    rw [CopySource.value?, hvalue]
    rfl
  · rename_i habsent
    rw [Json.Fields.get?_eq_none fun hmem => habsent ((hkeys property.name).mp hmem)]
    rfl

/-- What is written for a source comes to the literal of its value. -/
lemma itemValue?_token {source : CopySource}
    (hplain : ∀ name, source = .column name → isPlainName name = true) :
    itemValue? row source.token = (source.value? row).map Scalar.written := by
  cases source with
  | column name =>
    have hname : name ≠ "NULL" := by
      rintro rfl
      exact absurd (hplain "NULL" rfl) (by decide +kernel)
    rw [CopySource.token, itemValue?, if_neg hname, CopySource.value?, Option.map_map]
    rfl
  | value v =>
    rw [CopySource.token, CopySource.value?, Option.map_some]
    cases v.written <;> rfl

/-- A column is read only under the name of its property. -/
lemma isPlainName_of_sourceOf {property : Property} (h : isPlainName property.name = true) :
    ∀ name, sourceOf existing property = .column name → isPlainName name = true := by
  intro name hname
  unfold sourceOf at hname
  split at hname
  · cases hname
    exact h
  · cases hname

/-- The token of the source of a property: its name, or the literal of its default. -/
lemma token_sourceOf (property : Property) :
    (sourceOf existing property).token =
      if property.name ∈ existing then .word property.name
      else (Scalar.ofJson property.defaultValue).written.token := by
  unfold sourceOf
  split <;> rfl

/-- The columns of properties are assigned the literals of the reshaped row. -/
lemma assigned?_sources (hkeys : ∀ name, name ∈ Json.Fields.names row ↔ name ∈ existing)
    {list : List Property} (hplain : ∀ property ∈ list, isPlainName property.name = true) :
    assigned? row (list.map fun property => .word property.name)
        (list.map fun property => (sourceOf existing property).token) =
      some (list.map fun property => (property.name,
        (Scalar.ofJson ((row.get? property.name).getD property.defaultValue)).written)) := by
  induction list with
  | nil => rfl
  | cons first rest ih =>
    obtain ⟨hfirst, hrest⟩ := List.forall_mem_cons.mp hplain
    have hvalue : itemValue? row (sourceOf existing first).token =
        some (Scalar.ofJson ((row.get? first.name).getD first.defaultValue)).written := by
      rw [itemValue?_token (isPlainName_of_sourceOf hfirst), value?_sourceOf hkeys, Option.map_some]
    simp only [List.map_cons]
    rw [assigned?, hvalue, ih hrest]

/-- The statement that copies rows reshapes each of them as it is reshaped in memory.  For a row
that has just the columns that exist, the sources of the columns give the values of the reshaped
row; and the lists in the text of the statement assign to the declared columns, in order, the
literals of these values.  On both sides a column that exists keeps what the row has in it, `null`
as well, one that does not takes its default, and what is not declared is dropped. -/
theorem copied_as_reshaped (source target : String) (properties : PropertySet)
    (existing : List String) (row : Row)
    (hkeys : ∀ name, name ∈ Json.Fields.names row ↔ name ∈ existing) :
    ((ofProperties source target properties existing).columns.map fun column =>
        (column.1, column.2.value? row)) =
      ((reshape properties row).map fun field => (field.1, some (Scalar.ofJson field.2))) ∧
    (∃ columnList selectList,
      (ofProperties source target properties existing).text =
        "INSERT INTO " ++ target ++ " (" ++ columnList ++ ") SELECT " ++ selectList ++ " FROM " ++
          source ∧
      ∃ columns items, items? columnList = some columns ∧ items? selectList = some items ∧
        assigned? row columns items =
          some ((reshape properties row).map fun field =>
            (field.1, (Scalar.ofJson field.2).written)) ∧
        columns = properties.names.map SqlToken.word ∧
        items = properties.toList.map fun property =>
          if property.name ∈ existing then .word property.name
          else (Scalar.ofJson property.defaultValue).written.token) ∧
    Json.Fields.names (reshape properties row) = properties.names ∧
    ∀ property ∈ properties.toList,
      (property.name ∈ existing → ∃ value, row.get? property.name = some value ∧
        Json.Fields.get? (reshape properties row) property.name = some value) ∧
      (property.name ∉ existing →
        Json.Fields.get? (reshape properties row) property.name = some property.defaultValue) := by
  have hnames : Json.Fields.names (reshape properties row) = properties.names := by
    rw [Json.Fields.names, reshape, List.map_map, PropertySet.names]
    rfl
  have hcolumns : (ofProperties source target properties existing).columns =
      properties.toList.map fun property => (property.name, sourceOf existing property) := rfl
  have hcolumnList : items? (", ".intercalate (properties.toList.map Property.name)) =
      some (properties.toList.map fun property => .word property.name) := by
    refine items?_intercalate fun property hproperty => ?_
    exact spells_columnPath
      (isColumnPath_of_isPlainName (properties.names_valid property hproperty))
  have hselectList : items? (", ".intercalate
      (properties.toList.map fun property => (sourceOf existing property).text)) =
      some (properties.toList.map fun property => (sourceOf existing property).token) := by
    refine items?_intercalate fun property hproperty => ?_
    exact CopySource.spells_text
      (isPlainName_of_sourceOf (properties.names_valid property hproperty))
  refine ⟨?_, ⟨_, _, ?_, _, _, hcolumnList, hselectList, ?_, ?_, ?_⟩, hnames,
    fun property hproperty => ?_⟩
  · rw [hcolumns, reshape, List.map_map, List.map_map]
    refine List.map_congr_left fun property _ => ?_
    rw [Function.comp_apply, Function.comp_apply, value?_sourceOf hkeys]
  · have htargets : (ofProperties source target properties existing).columns.map Prod.fst =
        properties.toList.map Property.name := by
      rw [hcolumns, List.map_map]
      rfl
    have hsources :
        ((ofProperties source target properties existing).columns.map fun column =>
          column.2.text) =
        properties.toList.map fun property => (sourceOf existing property).text := by
      rw [hcolumns, List.map_map]
      rfl
    rw [← htargets, ← hsources]
    rfl
  · rw [assigned?_sources hkeys properties.names_valid, reshape, List.map_map]
    rfl
  · rw [PropertySet.names, List.map_map]
    rfl
  · exact List.map_congr_left fun property _ => token_sourceOf property
  · have hfield : Json.Fields.get? (reshape properties row) property.name =
        some ((row.get? property.name).getD property.defaultValue) := by
      have hmem : (property.name, (row.get? property.name).getD property.defaultValue) ∈
          reshape properties row :=
        List.mem_map.mpr ⟨property, hproperty, rfl⟩
      exact Json.Fields.get?_of_mem (hnames ▸ properties.names_nodup) hmem
    rw [hfield]
    refine ⟨fun hpresent => ?_, fun habsent => ?_⟩
    · obtain ⟨value, hvalue⟩ := Json.Fields.exists_get? ((hkeys property.name).mpr hpresent)
      exact ⟨value, hvalue, by rw [hvalue]; rfl⟩
    · rw [Json.Fields.get?_eq_none fun hmem => habsent ((hkeys property.name).mp hmem)]
      rfl

/-- Properties of which two have a default. -/
def profileProperties : PropertySet where
  toList := [.plain "name" .string,
    { Property.plain "nick" .string with default := some (.string "it\x27s") },
    { Property.plain "open" .boolean with default := some (.bool true) }, .plain "code" .string]
  names_valid := by decide +kernel
  names_nodup := by decide
  primaryKeys_le_one := by decide

/-- A row that has a name, which is `null`, and a column that is to go. -/
def profileRow : Row := [("nickname", .string "ben"), ("name", .null)]

/-- The name is kept, and the other columns are filled. -/
theorem profile_copied_as_reshaped :
    (∀ name, name ∈ Json.Fields.names profileRow ↔ name ∈ ["nickname", "name"]) ∧
    (ofProperties "users" "users_shadow" profileProperties ["nickname", "name"]).text =
      "INSERT INTO users_shadow (name, nick, open, code) " ++
        "SELECT name, \x27it\x27\x27s\x27, 1, NULL FROM users" ∧
    ∃ columns items, columns = ["name", "nick", "open", "code"].map SqlToken.word ∧
      items = [.word "name", .text "it\x27s", .number "1", .word "NULL"] ∧
      assigned? profileRow columns items =
        some [("name", .null), ("nick", .text "it\x27s"), ("open", .number "1"),
          ("code", .null)] := by
  have hkeys : ∀ name, name ∈ Json.Fields.names profileRow ↔ name ∈ ["nickname", "name"] :=
    fun _ => Iff.rfl
  obtain ⟨-, ⟨_, _, -, columns, items, -, -, hassigned, hcolumns, hitems⟩, -⟩ :=
    copied_as_reshaped "users" "users_shadow" profileProperties _ profileRow hkeys
  refine ⟨hkeys, by decide +kernel, columns, items, hcolumns, hitems.trans ?_, hassigned.trans ?_⟩
  · decide +kernel
  · decide +kernel

end RowCopy

end DocTables
