/-!
# Sixty-four-bit binary floating point, exactly

A finite number is a sign, a significand below `2^53` and an exponent, and stands for
`± significand · 2^exponent`. Every operation here is exact natural-number arithmetic followed by
one rounding to the nearest number of the format, a tie going to the even significand, so that
nothing depends on the machine's own floating point.
-/

namespace DocTables

/-- A number of the 64-bit binary format. The finite numbers that `Binary64.ofRatio` builds are in
the format's own form: `2^52 ≤ significand < 2^53`, or the exponent is the least one, `-1074`. -/
inductive Binary64 where
  /-- `± significand · 2^exponent`; the sign of zero is kept. -/
  | finite (negative : Bool) (significand : Nat) (exponent : Int)
  /-- An infinity. -/
  | infinite (negative : Bool)
  /-- Not a number. -/
  | nan
deriving DecidableEq, Repr, Inhabited

namespace Binary64

/-! ### The parameters of the format -/

/-- The exponent of the smallest positive number. -/
def leastExponent : Int := -1074

/-- The exponent of the largest finite number. -/
def greatestExponent : Int := 971

/-- The smallest significand of a number that is not below the normal range. -/
def leastNormal : Nat := Nat.pow 2 52

/-- Zero, with its sign. -/
def zero (negative : Bool) : Binary64 := .finite negative 0 leastExponent

/-! ### Rounding a quotient

A quotient `n / d` is rounded by choosing the exponent that puts the significand between `2^52` and
`2^53` (or the least exponent, if that is larger), dividing exactly and rounding the remainder. -/

/-- The quotient `n / d` rounded to the nearest natural number, a tie to the even one. -/
def roundQuotient (n d : Nat) : Nat :=
  let q := n / d
  let twice := 2 * (n % d)
  if d < twice || (twice == d && q % 2 == 1) then q + 1 else q

/-- The fraction `n / (d · 2^e)`, as numerator and denominator. -/
def scaleDown (n d : Nat) (e : Int) : Nat × Nat :=
  if 0 ≤ e then (n, d * Nat.pow 2 e.toNat) else (n * Nat.pow 2 (-e).toNat, d)

/-- The exponent of the leading binary digit of `n / d`, for positive `n` and `d`. -/
def leadingExponent (n d : Nat) : Int :=
  let guess : Int := (n.log2 : Int) - (d.log2 : Int)
  let (a, b) := scaleDown n d guess
  if b ≤ a then guess else guess - 1

/-- The number nearest to `± n / d`; beyond the largest finite number it is an infinity. -/
def ofRatio (negative : Bool) (n d : Nat) : Binary64 :=
  if n = 0 then zero negative
  else
    let e := max (leadingExponent n d - 52) leastExponent
    let (a, b) := scaleDown n d e
    let m := roundQuotient a b
    let (m, e) := if m = 2 * leastNormal then (leastNormal, e + 1) else (m, e)
    if greatestExponent < e then .infinite negative else .finite negative m e

/-- The number nearest to an integer. -/
def ofInt (n : Int) : Binary64 := ofRatio (decide (n < 0)) n.natAbs 1

/-- The number nearest to `± coefficient · 10^exponent`. Exponents whose outcome is settled by the
size of the number alone are not raised to a power. -/
def ofDecimal (negative : Bool) (coefficient : Nat) (exponent : Int) : Binary64 :=
  let digits : Int := coefficient.log2 / 3 + 1
  if coefficient = 0 then zero negative
  else if 400 < exponent then .infinite negative
  else if exponent + digits < -400 then zero negative
  else if 0 ≤ exponent then ofRatio negative (coefficient * Nat.pow 10 exponent.toNat) 1
  else ofRatio negative coefficient (Nat.pow 10 (-exponent).toNat)

/-! ### Reading a number -/

/-- Whether the number is finite. -/
def isFinite : Binary64 → Bool
  | .finite .. => true
  | _ => false

/-- The integer part of a finite number, toward zero. -/
def truncate? : Binary64 → Option Int
  | .finite negative m e =>
    let size : Nat := if 0 ≤ e then m * Nat.pow 2 e.toNat else m / Nat.pow 2 (-e).toNat
    some (if negative then -(size : Int) else size)
  | _ => none

end Binary64

end DocTables
