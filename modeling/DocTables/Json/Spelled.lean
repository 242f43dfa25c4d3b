import DocTables.Json.Token

/-!
# The structure of a JSON text

The tokens of a text are put together to the value they spell, with strings and numbers still as
they are spelled and with repeated keys still in place. The machine keeps the lists and objects
that are open on a stack, so the depth of a text is bounded by its length alone.
-/

namespace DocTables.Json

/-- A value as a text spells it. -/
inductive Spelled where
  /-- The word `null`. -/
  | null
  /-- One of the words `true` and `false`. -/
  | bool (b : Bool)
  /-- A number. -/
  | number (n : NumberSpelling)
  /-- A string. -/
  | string (units : List StringUnit)
  /-- A list. -/
  | array (items : List Spelled)
  /-- An object, with every entry as it stands. -/
  | object (entries : List (List StringUnit × Spelled))
deriving Inhabited

/-- A list or object that is still open: what it holds so far, in reverse. -/
inductive Frame where
  /-- A list. -/
  | array (items : List Spelled)
  /-- An object, with the key whose value comes next. -/
  | object (entries : List (List StringUnit × Spelled)) (name : List StringUnit)

/-- What may come next. -/
inductive ParseState where
  /-- A value must come. -/
  | value (stack : List Frame)
  /-- After the opening of a list: a value or the end of the list. -/
  | listStart (stack : List Frame)
  /-- After the opening of an object: a key or the end of the object. -/
  | objectStart (stack : List Frame)
  /-- After a comma in an object: a key. -/
  | key (entries : List (List StringUnit × Spelled)) (stack : List Frame)
  /-- After a key: a colon. -/
  | colon (entries : List (List StringUnit × Spelled)) (name : List StringUnit) (stack : List Frame)
  /-- After a value within the topmost open list or object: a comma or its end. -/
  | after (top : Frame) (stack : List Frame)
  /-- The whole value has been read. -/
  | done (value : Spelled)

namespace ParseState

/-- The state after a complete value. -/
def complete (value : Spelled) : List Frame → ParseState
  | [] => .done value
  | .array items :: stack => .after (.array (value :: items)) stack
  | .object entries name :: stack => .after (.object ((name, value) :: entries) []) stack

/-- The value that a closed list or object is. -/
def close : Frame → Spelled
  | .array items => .array items.reverse
  | .object entries _ => .object entries.reverse

/-- The state after a token where a value must come. -/
def value? (stack : List Frame) : Token → Option ParseState
  | .null => some (complete .null stack)
  | .bool b => some (complete (.bool b) stack)
  | .number n => some (complete (.number n) stack)
  | .string units => some (complete (.string units) stack)
  | .openArray => some (.listStart stack)
  | .openObject => some (.objectStart stack)
  | _ => none

/-- The state after one more token. -/
def step? (state : ParseState) (token : Token) : Option ParseState :=
  match state, token with
  | .value stack, token => value? stack token
  | .listStart stack, .closeArray => some (complete (.array []) stack)
  | .listStart stack, token => value? (.array [] :: stack) token
  | .objectStart stack, .closeObject => some (complete (.object []) stack)
  | .objectStart stack, .string name => some (.colon [] name stack)
  | .key entries stack, .string name => some (.colon entries name stack)
  | .colon entries name stack, .colon => some (.value (.object entries name :: stack))
  | .after (.array items) stack, .comma => some (.value (.array items :: stack))
  | .after (.array items) stack, .closeArray => some (complete (close (.array items)) stack)
  | .after (.object entries _) stack, .comma => some (.key entries stack)
  | .after (.object entries name) stack, .closeObject =>
    some (complete (close (.object entries name)) stack)
  | _, _ => none

end ParseState

/-- The value that the tokens spell from a state on. -/
def parseFrom? (state : ParseState) : List Token → Option Spelled
  | [] => match state with
    | .done value => some value
    | _ => none
  | token :: rest => match state.step? token with
    | none => none
    | some state => parseFrom? state rest

/-- The one value that a text spells. -/
def Spelled.read? (text : String) : Option Spelled := do
  let tokens ← scan? text.toList
  parseFrom? (.value []) tokens

end DocTables.Json
