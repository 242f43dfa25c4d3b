import DocTables.Binary64

/-!
# JSON values

An object keeps its entries in the order they were first written: setting a key that is already
there changes its value and not its place.
-/

namespace DocTables

/-- A JSON number: written as an integer, or as a 64-bit binary number. The two are told apart
even where they are equal in value. -/
inductive Json.Number where
  /-- A number written without point and exponent. -/
  | int (n : Int)
  /-- Any other number. -/
  | float (x : Binary64)
deriving DecidableEq, Repr, Inhabited

/-- A JSON value. -/
inductive Json where
  /-- The value `null`. -/
  | null
  /-- A truth value. -/
  | bool (b : Bool)
  /-- A number. -/
  | number (n : Json.Number)
  /-- A string. -/
  | string (s : String)
  /-- A list of values. -/
  | array (items : List Json)
  /-- Named values, in order. -/
  | object (fields : List (String × Json))
deriving Inhabited

namespace Json

/-! ### Numbers -/

/-- The smallest integer of 64 signed bits. -/
def leastInt64 : Int := -Int.pow 2 63

/-- The largest integer of 64 signed bits. -/
def greatestInt64 : Int := Int.pow 2 63 - 1

/-- The largest natural number of 64 bits. -/
def greatestNat64 : Nat := Nat.pow 2 64 - 1

namespace Number

/-- The number as an integer of 64 signed bits, if it was written as one. -/
def toInt64? : Number → Option Int
  | .int n => if leastInt64 ≤ n ∧ n ≤ greatestInt64 then some n else none
  | .float _ => none

/-- The number as a natural number of 64 bits, if it was written as one. -/
def toNat64? : Number → Option Nat
  | .int n => if 0 ≤ n ∧ n ≤ greatestNat64 then some n.toNat else none
  | .float _ => none

/-- The nearest 64-bit binary number. -/
def toBinary64 : Number → Binary64
  | .int n => .ofInt n
  | .float x => x

end Number

/-! ### The entries of an object -/

/-- The entries of an object in order. A well-formed list has no key twice, which `put` keeps. -/
abbrev Fields := List (String × Json)

namespace Fields

/-- The value of a key. -/
def get? (fields : Fields) (name : String) : Option Json := fields.lookup name

/-- The keys in order. -/
def names (fields : Fields) : List String := fields.map Prod.fst

/-- Sets a key: an existing one keeps its place, a new one comes last. -/
def put (name : String) (value : Json) : Fields → Fields
  | [] => [(name, value)]
  | (key, old) :: rest =>
    if key = name then (key, value) :: rest else (key, old) :: put name value rest

/-- The object that results from setting the entries one after the other. -/
def ofEntries (entries : List (String × Json)) : Fields :=
  entries.foldl (fun fields entry => put entry.1 entry.2 fields) []

end Fields

/-! ### Views -/

/-- The string, if the value is one. -/
def string? : Json → Option String
  | .string s => some s
  | _ => none

/-- The 64-bit signed integer, if the value is one. -/
def int64? : Json → Option Int
  | .number n => n.toInt64?
  | _ => none

/-- Whether the value is `null`. -/
def isNull : Json → Bool
  | .null => true
  | _ => false

/-- Whether the value is neither a list nor an object. -/
def isScalar : Json → Bool
  | .array _ => false
  | .object _ => false
  | _ => true

end Json

end DocTables
