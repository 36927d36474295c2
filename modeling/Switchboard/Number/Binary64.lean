import Switchboard.Text.Numeral

/-!
# Floating-point numbers of 64 bits

A finite number is `m · 2^q` with `m < 2^53` and `q ≥ -1074`, where `m ≥ 2^52` unless `q = -1074`.
Decimal fractions are rounded to the nearest such number, and to the one with even `m` half way.
Printing goes the other way: of the decimal fractions that would be rounded to the number, one with
the fewest digits is chosen, and among those the nearest.
-/

namespace Switchboard

/-- A floating-point number of 64 bits. -/
inductive Binary64 where
  /-- The number `m · 2^q`, with its sign. -/
  | finite (negative : Bool) (m : Nat) (q : Int)
  /-- A number too large to write down. -/
  | infinite (negative : Bool)
  /-- No number. -/
  | nan
  deriving DecidableEq, Repr

namespace Binary64

/-- The least exponent. -/
def minExponent : Int := -1074

/-- `num / den` rounded to the nearest whole number, half way to the even one. -/
def roundQuotient (num den : Nat) : Nat :=
  let quotient := num / den
  let twice := 2 * (num % den)
  if twice > den ∨ (twice = den ∧ quotient % 2 = 1) then quotient + 1 else quotient

/-- `num / den` in units of `2^q`, rounded. -/
def roundAt (num den : Nat) (q : Int) : Nat :=
  if q ≥ 0 then roundQuotient num (den <<< q.toNat)
  else roundQuotient (num <<< (-q).toNat) den

/-- The nearest number to `num / den`, for `den > 0`. -/
def ofRatio (negative : Bool) (num den : Nat) : Binary64 :=
  if num = 0 then finite negative 0 minExponent
  else
    -- `num / den` lies between `2^(e - 1)` and `2^(e + 1)`
    let e : Int := (num.log2 : Int) - den.log2
    let q := max minExponent (e - 53)
    let m := roundAt num den q
    let (m, q) :=
      if m < 1 <<< 53 then (m, q)
      else
        let m := roundAt num den (q + 1)
        if m < 1 <<< 53 then (m, q + 1) else (m / 2, q + 2)
    if q > 971 then infinite negative else finite negative m q

/-- The nearest number to `digits · 10^exponent`. -/
def ofDecimal (negative : Bool) (digits : Nat) (exponent : Int) : Binary64 :=
  let size : Int := (Numeral.digits 10 digits).length
  if digits = 0 ∨ size + exponent < -400 then finite negative 0 minExponent
  else if size + exponent > 400 then infinite negative
  else if exponent ≥ 0 then ofRatio negative (digits * Nat.pow 10 exponent.toNat) 1
  else ofRatio negative digits (Nat.pow 10 (-exponent).toNat)

/-- The decimal with the fewest digits that rounds to `m · 2^q`, as digits and power of ten, for
`m > 0`. The interval that rounds to the number has the bounds `low` and `high` in quarter units. -/
def shortest (m : Nat) (q : Int) : Nat × Int :=
  let low := if m = 1 <<< 52 ∧ q > minExponent then 4 * m - 1 else 4 * m - 2
  let high := 4 * m + 2
  let closed := m % 2 = 0
  -- every quantity times `2^(q - 2)`, brought over one denominator
  let scale := 1 <<< (q - 2).toNat
  let den := 1 <<< (2 - q).toNat
  let search := (List.range 700).findSome? fun (i : Nat) =>
    let k : Int := 350 - (i : Int)
    let up := Nat.pow 10 k.toNat
    let down := Nat.pow 10 (-k).toNat
    -- the multiple `d` of `10^k` compares with `x` quarter units as `d * unit` with `x * one`
    let unit := up * den
    let one := scale * down
    let fits (d : Nat) : Bool :=
      if closed then low * one ≤ d * unit ∧ d * unit ≤ high * one
      else low * one < d * unit ∧ d * unit < high * one
    let below := 4 * m * one / unit
    let above := below + 1
    let belowIsNearer : Bool := 4 * m * one - below * unit ≤ above * unit - 4 * m * one
    if below > 0 ∧ fits below ∧ (belowIsNearer ∨ ¬ fits above) then some (below, k)
    else if fits above then some (above, k)
    else none
  search.getD (m, 0)

/-- `digits · 10^exponent` without an exponent. -/
def positional (digits : Nat) (exponent : Int) : String :=
  let shown := Numeral.digits 10 digits
  if exponent ≥ 0 then String.ofList (shown ++ List.replicate exponent.toNat '0')
  else
    let places := (-exponent).toNat
    let padded := List.replicate (places + 1 - shown.length) '0' ++ shown
    String.ofList
      (padded.take (padded.length - places) ++ '.' :: padded.drop (padded.length - places))

/-- The text of a number, always with a decimal point if it is finite. -/
def print : Binary64 → String
  | finite negative m q =>
    let sign := if negative then "-" else ""
    let body :=
      if m = 0 then "0"
      else
        let (digits, exponent) := shortest m q
        positional digits exponent
    sign ++ body ++ (if '.' ∈ body.toList then "" else ".0")
  | infinite negative => if negative then "-inf" else "inf"
  | nan => "NaN"

end Binary64

end Switchboard
