import DocTables.Binary64

/-!
# The shortest decimal that reads back

Among the decimals that round to a given binary number, one with the fewest digits is wanted, and
of those the nearest. The decimals on the grid of multiples of `10^k` are tried from coarse to
fine; the two grid points next to the number are the only candidates of their grid, because the
decimals that round to a number form an interval around it.
-/

namespace DocTables

/-- The decimal number `coefficient · 10^exponent`. -/
structure Decimal where
  /-- The digits, as one natural number. -/
  coefficient : Nat
  /-- The power of ten of the last digit. -/
  exponent : Int
deriving DecidableEq, Repr

/-- Where an exact tie between two equally short decimals goes. -/
inductive Tie where
  /-- To the one whose last digit is even. -/
  | even
  /-- To the larger one. -/
  | up
deriving DecidableEq, Repr

namespace Decimal

/-! ### The interval of decimals that round to a binary number

All bounds of `m · 2^e` are integers in units of `2^(e-2)`: the number itself is `4m`, the upper
midpoint `4m + 2`, and the lower midpoint `4m - 2`, or `4m - 1` where the binary spacing halves
below the number. The midpoints themselves round to the number exactly when `m` is even. -/

/-- The lower midpoint of `m · 2^e` in units of `2^(e-2)`. -/
def lowerBound (m : Nat) (e : Int) : Nat :=
  if m = Binary64.leastNormal ∧ Binary64.leastExponent < e then 4 * m - 1 else 4 * m - 2

/-- The ratio of `10^k` to the unit `2^(e-2)`, as numerator and denominator. -/
def gridRatio (k e : Int) : Nat × Nat :=
  (Nat.pow 10 k.toNat * Nat.pow 2 (2 - e).toNat, Nat.pow 10 (-k).toNat * Nat.pow 2 (e - 2).toNat)

/-- Whether the grid point `c · 10^k` rounds to `m · 2^e`; `p / q` is the grid's ratio. -/
def readsBack (m : Nat) (e : Int) (p q c : Nat) : Bool :=
  let low := lowerBound m e * q
  let high := (4 * m + 2) * q
  if m % 2 = 0 then decide (low ≤ c * p ∧ c * p ≤ high) else decide (low < c * p ∧ c * p < high)

/-- The nearer of the two grid points next to `m · 2^e` among those that read back, if any does. -/
def onGrid? (tie : Tie) (m : Nat) (e k : Int) : Option Nat :=
  let (p, q) := gridRatio k e
  let below := 4 * m * q / p
  let rest := 4 * m * q % p
  let nearerBelow : Bool :=
    decide (2 * rest < p) || (decide (2 * rest = p) && tie == .even && below % 2 == 0)
  match readsBack m e p q below, readsBack m e p q (below + 1) with
  | true, true => some (if nearerBelow then below else below + 1)
  | true, false => some below
  | false, true => some (below + 1)
  | false, false => none

/-! ### From coarse to fine -/

/-- A power of ten above `m · 2^e`: `30103 / 100000` exceeds the decimal logarithm of two, and the
margin of two covers the rounding of the division. -/
def coarsestExponent (m : Nat) (e : Int) : Int :=
  ((m.log2 : Int) + 1 + e) * 30103 / 100000 + 2

/-- Tries `steps` grids, from `10^k` downwards; where none has a point that reads back the number
is cut off at the last grid tried. -/
def search (tie : Tie) (m : Nat) (e : Int) : Nat → Int → Decimal
  | 0, k =>
    let (p, q) := gridRatio k e
    ⟨4 * m * q / p, k⟩
  | steps + 1, k =>
    match onGrid? tie m e k with
    | some c => ⟨c, k⟩
    | none => search tie m e steps (k - 1)

/-- The shortest decimal that rounds to `m · 2^e`. Seventeen digits always suffice, and the search
starts fewer than four places above the leading one. -/
def shortest (tie : Tie) (m : Nat) (e : Int) : Decimal :=
  if m = 0 then ⟨0, 0⟩ else search tie m e 24 (coarsestExponent m e)

end Decimal

end DocTables
