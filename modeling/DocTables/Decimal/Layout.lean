import DocTables.Decimal.Shortest

/-!
# How a number is laid out in text

The digits of a number are found once (`Decimal.shortest`); where the point goes, when an exponent
is written instead, and how ties were settled are the choices of a layout. A layout is a plain
record, so each format that writes numbers states its choices in one place.
-/

namespace DocTables

/-- The choices of one number format. -/
structure DecimalLayout where
  /-- How an exact tie between two shortest decimals is settled. -/
  tie : Tie
  /-- The exponents of the leading digit written without an exponent mark: at least the first
  number and below the second. Absent, every number is written that way. -/
  positional : Option (Int × Int)
  /-- Whether a whole number written positionally ends in `.0`. -/
  pointZero : Bool
  /-- Whether a positive exponent carries a plus sign. -/
  plusExponent : Bool
deriving DecidableEq, Repr

namespace DecimalLayout

/-- The decimal digits of a natural number. -/
def digits (n : Nat) : List Char := Nat.toDigits 10 n

/-- The digits `ds` of a number whose last digit has the weight `10^k`, without an exponent mark. -/
def positionalText (layout : DecimalLayout) (ds : List Char) (k : Int) : List Char :=
  if 0 ≤ k then
    ds ++ List.replicate k.toNat '0' ++ (if layout.pointZero then ['.', '0'] else [])
  else
    let places := (-k).toNat
    if places < ds.length then
      ds.take (ds.length - places) ++ '.' :: ds.drop (ds.length - places)
    else '0' :: '.' :: (List.replicate (places - ds.length) '0' ++ ds)

/-- The digits `ds` of a number whose leading digit has the weight `10^e`, with the exponent
written out. -/
def exponentText (layout : DecimalLayout) (ds : List Char) (e : Int) : List Char :=
  let mantissa := match ds with
    | [] => []
    | [d] => [d]
    | d :: rest => d :: '.' :: rest
  let sign := if e < 0 then ['-'] else if layout.plusExponent then ['+'] else []
  mantissa ++ 'e' :: (sign ++ digits e.natAbs)

/-- The text of a decimal in this layout, without its sign. -/
def unsignedText (layout : DecimalLayout) (d : Decimal) : List Char :=
  let ds := digits d.coefficient
  let e := (ds.length : Int) - 1 + d.exponent
  match layout.positional with
  | none => layout.positionalText ds d.exponent
  | some (least, bound) =>
    if d.coefficient = 0 ∨ (least ≤ e ∧ e < bound) then layout.positionalText ds d.exponent
    else layout.exponentText ds e

/-- The text of a finite number; `none` for an infinity or for no number. -/
def text? (layout : DecimalLayout) : Binary64 → Option String
  | .finite negative m e =>
    let body := layout.unsignedText (Decimal.shortest layout.tie m e)
    some (String.ofList (if negative then '-' :: body else body))
  | _ => none

end DecimalLayout

end DocTables
