import DocTables.Schema.Property

/-!
# Schemas written in JSON

The declarations of a schema are an object from names to properties. A property is declared by the
name of its type, by an object, or by the list of what the object would hold, in a fixed order.
-/

namespace DocTables

/-- What the declaration of one property says, before its type is looked up. -/
structure Declaration where
  /-- The name of the type, if one is given. -/
  type : Option String
  /-- The default, if one is given. -/
  default : Option Json
  /-- Whether no value may occur twice. -/
  unique : Bool
  /-- Whether the property is the primary key. -/
  primaryKey : Bool
  /-- Whether the column is to have an index. -/
  indexed : Bool
  /-- Whether `NULL` is excluded. -/
  required : Bool
deriving Inhabited

namespace Declaration

/-- The type in an object or list: `null` counts as absent, anything else must be a string. -/
def type? : Option Json → Option (Option String)
  | none => some none
  | some .null => some none
  | some (.string s) => some (some s)
  | some _ => none

/-- The default in an object or list: `null` counts as absent. -/
def default? : Option Json → Option Json
  | none => none
  | some .null => none
  | some value => some value

/-- A flag in an object or list: absent it is not set, else it must be a truth value. -/
def flag? : Option Json → Option Bool
  | none => some false
  | some (.bool b) => some b
  | some _ => none

/-- The declaration that the six parts make; any of them may be absent. -/
def ofParts? (type default unique primaryKey indexed required : Option Json) :
    Option Declaration := do
  return {
    type := ← type? type
    default := default? default
    unique := ← flag? unique
    primaryKey := ← flag? primaryKey
    indexed := ← flag? indexed
    required := ← flag? required }

/-- The declaration that a JSON value spells. An object may hold other keys, which are ignored; a
list must hold the type and the default and nothing after the six parts. -/
def ofJson? : Json → Option Declaration
  | .string type => some ⟨some type, none, false, false, false, false⟩
  | .object fields =>
    let fields : Json.Fields := fields
    ofParts? (fields.get? "type") (fields.get? "defaultsTo") (fields.get? "unique")
      (fields.get? "primaryKey") (fields.get? "index") (fields.get? "required")
  | .array items =>
    if 2 ≤ items.length ∧ items.length ≤ 6 then
      ofParts? items[0]? items[1]? items[2]? items[3]? items[4]? items[5]?
    else none
  | _ => none

/-- The property that a declaration describes under a name. -/
def property (name : String) (declaration : Declaration) : Except SchemaError Property :=
  match declaration.type with
  | none => .error (.missingType name)
  | some descriptor => do
    let type ← PropertyType.ofDescriptor descriptor
    return {
      name := name
      type := type
      default := declaration.default
      unique := declaration.unique
      primaryKey := declaration.primaryKey
      indexed := declaration.indexed
      required := declaration.required }

end Declaration

namespace PropertySet

/-- Adds the property that an entry of a schema declares. -/
def declare (set : PropertySet) (name : String) (value : Json) : Except SchemaError PropertySet :=
  match Declaration.ofJson? value with
  | none => .error (.malformedProperty name)
  | some declaration => do
    let property ← declaration.property name
    set.push property

/-- Adds the properties that the entries of a schema declare, in order. -/
def declareAll (set : PropertySet) : List (String × Json) → Except SchemaError PropertySet
  | [] => .ok set
  | (name, value) :: rest => do
    let set ← set.declare name value
    set.declareAll rest

/-- The set of properties that a schema declares. -/
def ofJson : Json → Except SchemaError PropertySet
  | .object entries => empty.declareAll entries
  | _ => .error .notAnObject

end PropertySet

end DocTables
