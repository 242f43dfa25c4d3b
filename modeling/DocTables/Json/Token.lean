/-!
# The tokens of a JSON text

A text is read one character at a time by a machine with a handful of states. Strings and numbers
are kept as they are spelled: what an escaped surrogate or a huge exponent means is decided later,
and only for the parts of a text that are used.
-/

namespace DocTables.Json

/-! ### Numbers as they are spelled -/

/-- The number `± coefficient · 10^(exponent - places)` as it is spelled. -/
structure NumberSpelling where
  /-- Whether a minus sign comes first. -/
  negative : Bool
  /-- The digits before and after the point, as one number. -/
  coefficient : Nat
  /-- How many digits come after the point. -/
  places : Nat
  /-- The exponent after the mark. -/
  exponent : Int
  /-- Whether there is neither point nor exponent. -/
  whole : Bool
deriving DecidableEq, Repr, Inhabited

/-- How far a number has been read. -/
inductive NumberStage where
  /-- After the minus sign: a digit must follow. -/
  | minus
  /-- After a leading zero: no digit may follow. -/
  | leadingZero
  /-- Among the digits before the point. -/
  | integer
  /-- After the point: a digit must follow. -/
  | point
  /-- Among the digits after the point. -/
  | fraction
  /-- After the exponent mark: a sign or a digit must follow. -/
  | mark
  /-- After the sign of the exponent: a digit must follow. -/
  | markSign
  /-- Among the digits of the exponent. -/
  | exponent
deriving DecidableEq, Repr

/-- Whether a number may end at this stage. -/
def NumberStage.mayEnd : NumberStage → Bool
  | .leadingZero | .integer | .fraction | .exponent => true
  | .minus | .point | .mark | .markSign => false

/-- A number that is being read. -/
structure PartialNumber where
  /-- How far the number has been read. -/
  stage : NumberStage
  /-- Whether a minus sign came first. -/
  negative : Bool
  /-- The digits before and after the point. -/
  coefficient : Nat
  /-- How many digits came after the point. -/
  places : Nat
  /-- Whether the exponent has a minus sign. -/
  exponentNegative : Bool
  /-- The digits of the exponent. -/
  exponent : Nat
  /-- Whether a point or an exponent mark was read. -/
  fractional : Bool
deriving DecidableEq, Repr

namespace PartialNumber

/-- The number of which nothing has been read but the sign. -/
def start (negative : Bool) : PartialNumber :=
  ⟨.minus, negative, 0, 0, false, 0, false⟩

/-- The number as it stands, if it may end here. -/
def finish? (n : PartialNumber) : Option NumberSpelling :=
  if n.stage.mayEnd then
    some ⟨n.negative, n.coefficient, n.places,
      if n.exponentNegative then -(n.exponent : Int) else n.exponent, !n.fractional⟩
  else none

/-- Reads one more digit. -/
def digit? (n : PartialNumber) (d : Nat) : Option PartialNumber :=
  match n.stage with
  | .minus =>
    some { n with stage := if d = 0 then .leadingZero else .integer, coefficient := d }
  | .leadingZero => none
  | .integer => some { n with coefficient := 10 * n.coefficient + d }
  | .point | .fraction =>
    some { n with
      stage := .fraction, coefficient := 10 * n.coefficient + d, places := n.places + 1 }
  | .mark | .markSign | .exponent =>
    some { n with stage := .exponent, exponent := 10 * n.exponent + d }

/-- What one more character does to a number: it goes on, or it ends before the character. -/
inductive Progress where
  /-- The character belongs to the number. -/
  | more (n : PartialNumber)
  /-- The number is over. -/
  | over (n : NumberSpelling)

/-- Reads one more character; `none` if the number is ill-formed there. -/
def step? (n : PartialNumber) (c : Char) : Option Progress :=
  if c.isDigit then (n.digit? (c.toNat - 48)).map .more
  else
    match c, n.stage with
    | '.', .leadingZero | '.', .integer =>
      some (.more { n with stage := .point, fractional := true })
    | 'e', .leadingZero | 'e', .integer | 'e', .fraction
    | 'E', .leadingZero | 'E', .integer | 'E', .fraction =>
      some (.more { n with stage := .mark, fractional := true })
    | '+', .mark => some (.more { n with stage := .markSign })
    | '-', .mark => some (.more { n with stage := .markSign, exponentNegative := true })
    | _, _ => n.finish?.map .over

end PartialNumber

/-! ### Strings as they are spelled -/

/-- One unit of a string: a character that stands for itself, or a code given by `\u` and four
hexadecimal digits, which may be one half of a surrogate pair. -/
inductive StringUnit where
  /-- A character that stands for itself. -/
  | char (c : Char)
  /-- A code written out in hexadecimal digits. -/
  | code (n : Nat)
deriving DecidableEq, Repr, Inhabited

/-- The character that a one-letter escape stands for. -/
def escaped? : Char → Option Char
  | '"' => some '"'
  | '\\' => some '\\'
  | '/' => some '/'
  | 'b' => some (Char.ofNat 8)
  | 'f' => some (Char.ofNat 12)
  | 'n' => some '\n'
  | 'r' => some '\r'
  | 't' => some '\t'
  | _ => none

/-- The value of a hexadecimal digit. -/
def hexDigit? (c : Char) : Option Nat :=
  if c.isDigit then some (c.toNat - 48)
  else if 'a' ≤ c ∧ c ≤ 'f' then some (c.toNat - 87)
  else if 'A' ≤ c ∧ c ≤ 'F' then some (c.toNat - 55)
  else none

/-- The character of a string of codes: a code outside the surrogates is its own character, a high
surrogate joins with the low one that follows directly, and any other surrogate has none. -/
def decodeUnits? : List StringUnit → Option (List Char)
  | [] => some []
  | .char c :: rest => (decodeUnits? rest).map (c :: ·)
  | .code n :: rest =>
    if n < 0xD800 ∨ 0xDFFF < n then (decodeUnits? rest).map (Char.ofNat n :: ·)
    else if n < 0xDC00 then
      match rest with
      | .code low :: rest =>
        if 0xDC00 ≤ low ∧ low ≤ 0xDFFF then
          let joined := 0x10000 + (n - 0xD800) * 0x400 + (low - 0xDC00)
          (decodeUnits? rest).map (Char.ofNat joined :: ·)
        else none
      | _ => none
    else none

/-! ### The machine -/

/-- A token of a JSON text. -/
inductive Token where
  /-- The mark that opens a list. -/
  | openArray
  /-- The mark that closes a list. -/
  | closeArray
  /-- The mark that opens an object. -/
  | openObject
  /-- The mark that closes an object. -/
  | closeObject
  /-- The comma. -/
  | comma
  /-- The colon. -/
  | colon
  /-- The word `null`. -/
  | null
  /-- The words `true` and `false`. -/
  | bool (b : Bool)
  /-- A number. -/
  | number (n : NumberSpelling)
  /-- A string. -/
  | string (units : List StringUnit)
deriving DecidableEq, Repr, Inhabited

/-- The state of the machine between two characters. -/
inductive ScanState where
  /-- Between tokens. -/
  | between
  /-- Within a word, with the letters that must follow and the token it will be. -/
  | word (left : List Char) (token : Token)
  /-- Within a number. -/
  | number (n : PartialNumber)
  /-- Within a string, with the units read so far in reverse. -/
  | string (units : List StringUnit)
  /-- After a backslash within a string. -/
  | escape (units : List StringUnit)
  /-- Within the digits of a code, with the number of digits that must follow. -/
  | hex (units : List StringUnit) (left value : Nat)

namespace ScanState

/-- One character between tokens: the tokens it completes and the state after it. -/
def between? : Char → Option (List Token × ScanState)
  | ' ' | '\n' | '\t' | '\r' => some ([], .between)
  | '[' => some ([.openArray], .between)
  | ']' => some ([.closeArray], .between)
  | '\x7b' => some ([.openObject], .between)
  | '\x7d' => some ([.closeObject], .between)
  | ',' => some ([.comma], .between)
  | ':' => some ([.colon], .between)
  | '"' => some ([], .string [])
  | 'n' => some ([], .word ['u', 'l', 'l'] .null)
  | 't' => some ([], .word ['r', 'u', 'e'] (.bool true))
  | 'f' => some ([], .word ['a', 'l', 's', 'e'] (.bool false))
  | '-' => some ([], .number (.start true))
  | c =>
    if c.isDigit then
      ((PartialNumber.start false).digit? (c.toNat - 48)).map fun n => ([], .number n)
    else none

/-- One character: the tokens it completes and the state after it. -/
def step? (state : ScanState) (c : Char) : Option (List Token × ScanState) :=
  match state with
  | .between => between? c
  | .word left token =>
    match left with
    | [] => none
    | [last] => if c = last then some ([token], .between) else none
    | next :: left => if c = next then some ([], .word left token) else none
  | .number n =>
    match n.step? c with
    | none => none
    | some (.more n) => some ([], .number n)
    | some (.over n) => (between? c).map fun (tokens, state) => (.number n :: tokens, state)
  | .string units =>
    if c = '"' then some ([.string units.reverse], .between)
    else if c = '\\' then some ([], .escape units)
    else if c.toNat < 0x20 then none
    else some ([], .string (.char c :: units))
  | .escape units =>
    if c = 'u' then some ([], .hex units 4 0)
    else (escaped? c).map fun c => ([], .string (.char c :: units))
  | .hex units left value =>
    match hexDigit? c with
    | none => none
    | some d =>
      let value := 16 * value + d
      if left ≤ 1 then some ([], .string (.code value :: units))
      else some ([], .hex units (left - 1) value)

/-- The token that the end of the text completes, if the text may end here. -/
def finish? : ScanState → Option (List Token)
  | .between => some []
  | .number n => n.finish?.map fun n => [.number n]
  | _ => none

end ScanState

/-- The tokens of a text, given the state the machine is in and the tokens so far in reverse. -/
def scanFrom? (state : ScanState) (done : List Token) : List Char → Option (List Token)
  | [] => state.finish?.map fun last => done.reverse ++ last
  | c :: rest =>
    match state.step? c with
    | none => none
    | some (tokens, state) => scanFrom? state (tokens.reverse ++ done) rest

/-- The tokens of a text; `none` if it is no sequence of tokens. -/
def scan? (text : List Char) : Option (List Token) := scanFrom? .between [] text

end DocTables.Json
