import DocTables.Name
import DocTables.Schema.Column

/-!
# Properties and sets of properties

A set of properties is an ordered list in which all names are plain and different and at most one
property is the primary key. The only way to add to a set is `PropertySet.push`, which checks this.
-/

namespace DocTables

/-- A declared property of a document. -/
structure Property where
  /-- The name of the property and of its column. -/
  name : String
  /-- The type. -/
  type : PropertyType
  /-- The value that a document or row takes where it lacks the property. -/
  default : Option Json
  /-- Whether no value may occur twice. -/
  unique : Bool
  /-- Whether the property is the primary key. -/
  primaryKey : Bool
  /-- Whether the column is to have an index. -/
  indexed : Bool
  /-- Whether `NULL` is excluded. -/
  required : Bool

namespace Property

/-- A property without constraints and default. -/
def plain (name : String) (type : PropertyType) : Property :=
  ⟨name, type, none, false, false, false, false⟩

/-- The default, or `null` where none is declared. -/
def defaultValue (property : Property) : Json := property.default.getD .null

/-- The column that keeps the property. -/
def column (property : Property) : Column where
  name := property.name
  type := property.type.columnType
  unique := property.unique
  primaryKey := property.primaryKey
  indexed := property.indexed
  notNull := property.required
  default := property.default.map Scalar.ofJson

end Property

/-- An ordered set of properties. -/
structure PropertySet where
  /-- The properties in the order of their declaration. -/
  toList : List Property
  /-- Every name is a plain name. -/
  names_valid : ∀ property ∈ toList, isPlainName property.name = true
  /-- No name occurs twice. -/
  names_nodup : (toList.map Property.name).Nodup
  /-- At most one property is the primary key. -/
  primaryKeys_le_one : (toList.filter Property.primaryKey).length ≤ 1

namespace PropertySet

/-- The set without properties. -/
def empty : PropertySet := ⟨[], by simp, by simp, by simp⟩

/-- The names in order. -/
def names (set : PropertySet) : List String := set.toList.map Property.name

/-- The property of a name. -/
def get? (set : PropertySet) (name : String) : Option Property :=
  set.toList.find? fun property => property.name == name

/-- Whether a property of the name is declared. -/
def contains (set : PropertySet) (name : String) : Bool := (set.get? name).isSome

/-- The number of properties. -/
def size (set : PropertySet) : Nat := set.toList.length

/-- Whether no property is declared. -/
def isEmpty (set : PropertySet) : Bool := set.toList.isEmpty

/-- Whether some property is the primary key. -/
def hasPrimaryKey (set : PropertySet) : Bool := set.toList.any Property.primaryKey

/-- Adds a property at the end. A name that is no plain name comes before a repeated name, and that
before a second primary key, as the reason to refuse it. -/
def push (set : PropertySet) (property : Property) : Except SchemaError PropertySet :=
  if hname : isPlainName property.name = true then
    if hnew : property.name ∈ set.names then .error (.duplicateProperty property.name)
    else if hkey : property.primaryKey = true ∧ set.hasPrimaryKey = true then
      .error (.duplicatePrimaryKey property.name)
    else
      .ok {
        toList := set.toList ++ [property]
        names_valid := by
          intro p hp
          rcases List.mem_append.1 hp with h | h
          · exact set.names_valid p h
          · rw [List.mem_singleton.1 h]; exact hname
        names_nodup := by
          rw [List.map_append, List.nodup_append]
          refine ⟨set.names_nodup, by simp, ?_⟩
          intro a ha b hb hab
          have hb' : b = property.name := by simpa using hb
          subst hab hb'
          exact hnew ha
        primaryKeys_le_one := by
          rw [List.filter_append, List.length_append]
          by_cases hp : property.primaryKey = true
          · have hnone : set.toList.filter Property.primaryKey = [] := by
              rw [List.filter_eq_nil_iff]
              intro q hq hqk
              exact hkey ⟨hp, List.any_eq_true.2 ⟨q, hq, hqk⟩⟩
            simp [hnone, hp]
          · simpa [hp] using set.primaryKeys_le_one }
  else .error (.invalidIdentifier property.name)

/-- The set without the property of a name. -/
def erase (set : PropertySet) (name : String) : PropertySet where
  toList := set.toList.eraseP fun property => property.name == name
  names_valid := fun p hp => set.names_valid p (List.mem_of_mem_eraseP hp)
  names_nodup := set.names_nodup.sublist (List.Sublist.map _ List.eraseP_sublist)
  primaryKeys_le_one :=
    Nat.le_trans (List.Sublist.length_le (List.Sublist.filter _ List.eraseP_sublist))
      set.primaryKeys_le_one

/-- The columns of the properties, in order. -/
def columns (set : PropertySet) : List Column := set.toList.map Property.column

/-- The definitions of the columns, separated by commas. -/
def definitions (set : PropertySet) : String := Column.definitions set.columns

/-- The names of the columns that are to have an index. -/
def indexNames (set : PropertySet) : List String := Column.indexNames set.columns

end PropertySet

end DocTables
