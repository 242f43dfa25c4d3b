import DocTables.Storage.Reply

/-!
# Records

A record is a row together with the name of the table it came from.
-/

namespace DocTables

/-- A row and its table. -/
structure Record where
  /-- The table. -/
  table : String
  /-- The fields in order. -/
  fields : Row
deriving Inhabited

namespace Record

/-- The value of a field. -/
def get? (record : Record) (name : String) : Option Json := record.fields.get? name

/-- The value of a field, or `null` where it is missing. -/
def getD (record : Record) (name : String) : Json := (record.get? name).getD .null

/-- Sets a field; the value it had before is the second result. -/
def set (record : Record) (name : String) (value : Json) : Record × Option Json :=
  (⟨record.table, record.fields.put name value⟩, record.get? name)

end Record

end DocTables
