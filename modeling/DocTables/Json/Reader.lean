import DocTables.Json.Basic
import DocTables.Json.Spelled

/-!
# From a JSON text to a value

A spelled value becomes a value when its strings are decoded, its numbers are found to be in range
and its depth is within a bound. A key that is repeated keeps its first place and takes its last
value.
-/

namespace DocTables.Json

/-- The deepest nesting of lists and objects in a text that is read. -/
def maxDepth : Nat := 127

/-- The number that is spelled: an integer where it is whole and in range, else the nearest 64-bit
binary number. Minus zero is not an integer. A number beyond the finite ones is refused. -/
def NumberSpelling.number? (n : NumberSpelling) : Option Number :=
  let signed : Int := if n.negative then -(n.coefficient : Int) else n.coefficient
  if n.whole ∧ ¬(n.negative ∧ n.coefficient = 0) ∧ leastInt64 ≤ signed ∧ signed ≤ greatestNat64 then
    some (.int signed)
  else
    let x := Binary64.ofDecimal n.negative n.coefficient (n.exponent - n.places)
    if x.isFinite then some (.float x) else none

/-- The string that is spelled, unless it holds half of a surrogate pair. -/
def decodeString? (units : List StringUnit) : Option String :=
  (decodeUnits? units).map String.ofList

mutual

/-- The value that is spelled, if at most `depth` lists and objects are nested in it. -/
def Spelled.value? (depth : Nat) : Spelled → Option Json
  | .null => some .null
  | .bool b => some (.bool b)
  | .number n => n.number?.map .number
  | .string units => (decodeString? units).map .string
  | .array items => match depth with
    | 0 => none
    | depth + 1 => (Spelled.values? depth items).map .array
  | .object entries => match depth with
    | 0 => none
    | depth + 1 => (Spelled.fields? depth [] entries).map .object

/-- The values that are spelled. -/
def Spelled.values? (depth : Nat) : List Spelled → Option (List Json)
  | [] => some []
  | item :: rest => do
    let value ← item.value? depth
    let values ← Spelled.values? depth rest
    return value :: values

/-- The entries that are spelled, set one after the other. -/
def Spelled.fields? (depth : Nat) (done : Fields) :
    List (List StringUnit × Spelled) → Option Fields
  | [] => some done
  | (key, item) :: rest => do
    let key ← decodeString? key
    let value ← item.value? depth
    Spelled.fields? depth (done.put key value) rest

end

/-- The value of a JSON text. -/
def parse? (text : String) : Option Json := do
  let spelled ← Spelled.read? text
  spelled.value? maxDepth

end DocTables.Json
