import SchemaMigration.Database.Timestamp
import SchemaMigration.Database.Value
import SchemaMigration.Number.Numeral
import SchemaMigration.Text.Blank

/-! # Values of columns

What a column of an ordinary table holds, the types it may be declared with, and how a value is
handed out through the narrower interface of parameters and rows.
-/

namespace SchemaMigration

inductive Datum where
  | null
  | text (s : String)
  | integer (n : Int)
  /-- The fraction `unscaled / 10 ^ scale`. -/
  | decimal (unscaled : Int) (scale : Nat)
  | double (isNegative : Bool) (magnitude : Number.Magnitude)
  | notANumber
  | boolean (b : Bool)
  | timestamp (t : Timestamp)
  deriving Repr, DecidableEq

/-- The type of a column, or the target of a conversion. -/
inductive ColumnType where
  | text
  /-- Whole numbers of an interval. -/
  | integer (low high : Int)
  | decimal
  | double
  | boolean
  | timestamp
  deriving Repr, DecidableEq

namespace ColumnType

/-- Whole numbers of a number of bits, with or without a sign. -/
def ofBits (bits : Nat) (isSigned : Bool) : ColumnType :=
  if isSigned then integer (-(Number.pow2 (bits - 1) : Int)) (Number.pow2 (bits - 1) - 1)
  else integer 0 (Number.pow2 bits - 1)

/-- The type with a name, written in upper case. -/
def ofName? (name : String) : Option ColumnType :=
  match name with
  | "VARCHAR" | "TEXT" | "STRING" | "CHAR" => some text
  | "TINYINT" => some (ofBits 8 true)
  | "SMALLINT" => some (ofBits 16 true)
  | "INT" | "INTEGER" => some (ofBits 32 true)
  | "BIGINT" => some (ofBits 64 true)
  | "HUGEINT" => some (ofBits 128 true)
  | "UTINYINT" => some (ofBits 8 false)
  | "USMALLINT" => some (ofBits 16 false)
  | "UINTEGER" => some (ofBits 32 false)
  | "UBIGINT" => some (ofBits 64 false)
  | "UHUGEINT" => some (ofBits 128 false)
  | "DECIMAL" | "NUMERIC" => some decimal
  | "DOUBLE" | "FLOAT" | "REAL" => some double
  | "BOOLEAN" | "BOOL" => some boolean
  | "TIMESTAMP" | "DATETIME" => some timestamp
  | _ => none

end ColumnType

namespace Datum

/-- A fraction as a double precision number. -/
def doubleOfFraction (num : Int) (den : Nat) : Datum :=
  double (num < 0) (Number.Magnitude.ofFraction num.natAbs den)

/-- The number that digits, an optional point and an optional exponent stand for. -/
def ofNumeral? (cs : List Char) : Option Datum :=
  (Number.Numeral.parse cs).map fun n =>
    if n.exponent.isSome then double false n.toMagnitude
    else if n.hasPoint then decimal n.unscaled n.scale
    else integer n.unscaled

def negate : Datum → Option Datum
  | null => some null
  | integer n => some (integer (-n))
  | decimal n scale => some (decimal (-n) scale)
  | double isNegative m => some (double (!isNegative) m)
  | notANumber => some notANumber
  | _ => none

/-- The number that a text stands for. -/
def numberOfText? (s : String) : Option Datum :=
  match Number.splitSign (Text.trim s).toList with
  | (true, cs) => (ofNumeral? cs).bind negate
  | (false, cs) => ofNumeral? cs

/-- A number as a fraction with its denominator. -/
def fraction? : Datum → Option (Int × Nat)
  | integer n => some (n, 1)
  | decimal n scale => some (n, Number.pow10 scale)
  | double isNegative (.finite m q) =>
    let m : Int := if isNegative then -m else m
    some (if 0 ≤ q then (m * Number.pow2 q.toNat, 1) else (m, Number.pow2 (-q).toNat))
  | _ => none

/-- A fraction rounded to a whole number, halves away from zero. -/
def roundHalfAway (num : Int) (den : Nat) : Int :=
  let magnitude : Int := (2 * num.natAbs + den) / (2 * den)
  if num < 0 then -magnitude else magnitude

/-- A number in digits: a whole number plainly, any other one with its decimals. -/
def numeral (num : Int) (den scale : Nat) : String :=
  let sign := if num < 0 then "-" else ""
  let decimals := Time.padded scale (num.natAbs % den * Number.pow10 scale / den)
  sign ++ Nat.repr (num.natAbs / den) ++ if scale = 0 then "" else "." ++ decimals

/-- A double precision number of large magnitude in digits. -/
def largeNumeral (isNegative : Bool) (magnitude : Number.Magnitude) : String :=
  (if isNegative then "-" else "") ++ magnitude.text

/-- Converts a value to a type; `none` where it has no counterpart there. -/
def cast (type : ColumnType) (d : Datum) : Option Datum :=
  match type, d with
  | _, null => some null
  | .text, text s => some (text s)
  | .text, integer n => some (text (toString n))
  | .text, decimal n scale => some (text (numeral n (Number.pow10 scale) scale))
  | .text, boolean b => some (text (toString b))
  | .text, timestamp t => some (text t.text)
  | .text, notANumber => some (text "nan")
  | .text, double isNegative m =>
    match (double isNegative m).fraction? with
    | some (num, den) => some (text (numeral num den (if num % den = 0 then 1 else 17)))
    | none => some (text (largeNumeral isNegative m))
  | .integer low high, d => do
    let d ← match d with
      | text s => numberOfText? s
      | boolean b => some (integer (if b then 1 else 0))
      | d => some d
    let (num, den) ← d.fraction?
    let n := roundHalfAway num den
    if low ≤ n ∧ n ≤ high then some (integer n) else none
  | .decimal, text s => (numberOfText? s).filter fun d => d.fraction?.isSome
  | .decimal, d => if d.fraction?.isSome then some d else none
  | .double, text s =>
    match (Text.trim s).toLower with
    | "nan" => some notANumber
    | "infinity" | "inf" | "+infinity" => some (double false .infinite)
    | "-infinity" | "-inf" => some (double true .infinite)
    | _ => (numberOfText? s).bind fun d => d.fraction?.map fun (num, den) => doubleOfFraction num den
  | .double, double isNegative m => some (double isNegative m)
  | .double, notANumber => some notANumber
  | .double, d => d.fraction?.map fun (num, den) => doubleOfFraction num den
  | .boolean, boolean b => some (boolean b)
  | .boolean, integer n => some (boolean (n ≠ 0))
  | .boolean, text s =>
    match (Text.trim s).toLower with
    | "true" | "t" | "yes" | "y" | "1" => some (boolean true)
    | "false" | "f" | "no" | "n" | "0" => some (boolean false)
    | _ => none
  | .boolean, _ => none
  | .timestamp, timestamp t => some (timestamp t)
  | .timestamp, text s => (Timestamp.parse s).map timestamp
  | .timestamp, _ => none

def fitsInt64 (n : Int) : Bool :=
  -9223372036854775808 ≤ n && n ≤ 9223372036854775807

/-- The type of a column that is made for a value. A missing value makes a column of numbers. -/
def type : Datum → ColumnType
  | text _ => .text
  | integer n =>
    if ((integer n).cast (.ofBits 32 true)).isSome then .ofBits 32 true
    else if fitsInt64 n then .ofBits 64 true
    else .ofBits 128 true
  | decimal .. => .decimal
  | double .. | notANumber => .double
  | boolean _ => .boolean
  | timestamp _ => .timestamp
  | null => .ofBits 32 true

/-- A value as the interface hands it out. A number loses its decimals, and one that does not fit
    into 64 bits is handed out as the text of the nearest double precision number. Kinds without a
    counterpart become null. -/
def toValue : Datum → SqlValue
  | null => .null
  | text s => .text s
  | boolean b => .text (toString b)
  | notANumber => .text "NaN"
  | timestamp _ => .null
  | double isNegative .infinite => .text (largeNumeral isNegative .infinite)
  | d =>
    match d.fraction? with
    | none => .null
    | some (num, den) =>
      let n := Int.tdiv num den
      if fitsInt64 n then .int n
      else .text (largeNumeral (n < 0) (Number.Magnitude.ofFraction num.natAbs den))

def ofValue : SqlValue → Datum
  | .null => null
  | .text s => text s
  | .int n => integer n

/-- The order of two values of one kind; `none` when either is missing or the kinds differ. -/
def compare? : Datum → Datum → Option Ordering
  | text a, text b => some (compare a b)
  | boolean a, boolean b => some (compare a b)
  | timestamp a, timestamp b =>
    some (if a = b then .eq else if a.notLater b then .lt else .gt)
  | a, b =>
    match a.fraction?, b.fraction? with
    | some (x, y), some (z, w) => some (compare (x * w) (z * y))
    | _, _ => none

end Datum

end SchemaMigration
