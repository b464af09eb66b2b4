import SchemaMigration.Number.Power

/-! # Binary floating point numbers of 64 bits

A finite number is `m * 2 ^ q` with `m` below `2 ^ 53`. Rounding goes to the nearest such number, on
a tie to the even one. A number is written in the fewest digits that round to it.
-/

namespace SchemaMigration.Number

inductive Magnitude where
  | finite (m : Nat) (q : Int)
  | infinite
  deriving Repr, DecidableEq

/-- A fraction rounded to a whole number, on a tie to the even one. -/
def roundHalfEven (num den : Nat) : Nat :=
  let quotient := num / den
  let rest := num % den
  if 2 * rest < den then quotient
  else if den < 2 * rest then quotient + 1
  else if quotient % 2 = 0 then quotient
  else quotient + 1

/-- The fraction `num / den / 2 ^ q` rounded to a whole number. -/
def roundAtExponent (num den : Nat) (q : Int) : Nat :=
  if 0 ≤ q then roundHalfEven num (den * pow2 q.toNat)
  else roundHalfEven (num * pow2 (-q).toNat) den

namespace Magnitude

/-- The number nearest to a fraction, rounded by `roundAtExponent` at the exponent of its magnitude. -/
def ofFraction (num den : Nat) : Magnitude :=
  if num = 0 then finite 0 0
  else
    let guess : Int := max ((num.log2 : Int) - den.log2 - 53) (-1074)
    let q := if pow2 53 ≤ roundAtExponent num den guess then guess + 1 else guess
    let m := roundAtExponent num den q
    let (m, q) := if m = pow2 53 then (pow2 52, q + 1) else (m, q)
    if 971 < q then infinite else finite m q

end Magnitude

/-- A multiple of `step` inside the closed or open interval from `low` to `high` that is nearest to
    `value`, if there is one. -/
def nearestMultiple (value low high step : Nat) (closed : Bool) : Option Nat :=
  let inside (n : Nat) : Bool := if closed then low ≤ n && n ≤ high else low < n && n < high
  let below := value / step * step
  let above := below + step
  match inside below, inside above with
  | true, true => some (if value - below ≤ above - value then below else above)
  | true, false => some below
  | false, true => some above
  | false, false => none

/-- A multiple of `10 ^ k` that rounds to `m * 2 ^ q`, divided by `10 ^ k`, if there is one: the
    nearest of them. The interval of what rounds to the number is counted in quarters of `2 ^ q`. Its
    ends belong to it when `m` is even, and its lower half is narrower where the numbers below are
    closer together. -/
def onGrid (m : Nat) (q : Int) (k : Int) : Option Nat :=
  let unit := pow2 (q - 2).toNat * pow10 (-k).toNat
  let step := pow2 (2 - q).toNat * pow10 k.toNat
  let below := if m = pow2 52 && -1074 < q then 1 else 2
  (nearestMultiple (4 * m * unit) ((4 * m - below) * unit) ((4 * m + 2) * unit) step
    (m % 2 == 0)).map (· / step)

/-- The fewest digits that round to a number above zero, with the power of ten that they count. -/
def shortestDigits (m : Nat) (q : Int) : Nat × Int :=
  let top : Int := (m.log2 + q + 1) * 30103 / 100000 + 1
  let grids := (List.range 25).map fun (i : Nat) => top - i
  (grids.findSome? fun k => (onGrid m q k).map fun n => (n, k)).getD (m * pow2 q.toNat, 0)

/-- Digits that count a power of ten, written out with a point where one is needed. -/
def positional (digits : Nat) (exponent : Int) : String :=
  let ds := Nat.repr digits
  if 0 ≤ exponent then ds ++ String.ofList (List.replicate exponent.toNat '0')
  else
    let places := (-exponent).toNat
    let ds := (List.replicate (places + 1 - ds.length) '0') ++ ds.toList
    String.ofList (ds.take (ds.length - places)) ++ "." ++ String.ofList (ds.drop (ds.length - places))

/-- A magnitude in the fewest digits that round to it, without an exponent. -/
def Magnitude.text : Magnitude → String
  | infinite => "inf"
  | finite m q =>
    if m = 0 then "0"
    else
      let (digits, exponent) := shortestDigits m q
      positional digits exponent

end SchemaMigration.Number
