import SchemaMigration.Number.Binary64
import SchemaMigration.Time.Parse

/-! # Numerals

Digits with an optional point and an optional exponent, as they are written in statements and in
configuration files.
-/

namespace SchemaMigration.Number

/-- An unsigned numeral: `unscaled / 10 ^ scale`, times a power of ten if it has an exponent. -/
structure Numeral where
  unscaled : Nat
  scale : Nat
  hasPoint : Bool
  exponent : Option Int
  deriving Repr, DecidableEq

/-- Splits a sign off a text; the sign is negative or not. -/
def splitSign : List Char → Bool × List Char
  | '-' :: cs => (true, cs)
  | '+' :: cs => (false, cs)
  | cs => (false, cs)

/-- Exponents beyond this one make no difference. -/
def exponentLimit : Nat := 4000

namespace Numeral

/-- Reads an exponent: a mark, an optional sign and digits. -/
def parseExponent : List Char → Option (Option Int)
  | [] => some none
  | mark :: cs =>
    let (isNegative, digits) := splitSign cs
    let n : Int := min (Time.digitsValue digits) exponentLimit
    if (mark = 'e' || mark = 'E') && !digits.isEmpty && digits.all Char.isDigit then
      some (some (if isNegative then -n else n))
    else none

/-- Reads a numeral from the whole of a text. There has to be a digit before or after the point. -/
def parse (cs : List Char) : Option Numeral := do
  let whole := cs.takeWhile Char.isDigit
  let cs := cs.drop whole.length
  let (decimals, cs) := match cs with
    | '.' :: cs => let ds := cs.takeWhile Char.isDigit; (some ds, cs.drop ds.length)
    | cs => (none, cs)
  let digits := whole ++ decimals.getD []
  if digits.isEmpty then none
  let exponent ← parseExponent cs
  return ⟨Time.digitsValue digits, (decimals.getD []).length, decimals.isSome, exponent⟩

def fraction (n : Numeral) : Nat × Nat :=
  let exponent := n.exponent.getD 0
  (n.unscaled * pow10 exponent.toNat, pow10 (n.scale + (-exponent).toNat))

/-- The double precision number nearest to a numeral. -/
def toMagnitude (n : Numeral) : Magnitude :=
  Magnitude.ofFraction n.fraction.1 n.fraction.2

end Numeral

end SchemaMigration.Number
