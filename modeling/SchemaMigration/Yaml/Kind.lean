import SchemaMigration.Number.Numeral
import SchemaMigration.Text.Quoted
import SchemaMigration.Yaml.Document

/-! # Kinds of scalars

What a scalar stands for: nothing, a truth value, a number or a text. A plain scalar stands for what
it looks like; a tag can ask for a kind.
-/

namespace SchemaMigration.Yaml

inductive Kind where
  | null
  | boolean (b : Bool)
  | integer (n : Int)
  | float (isNegative : Bool) (magnitude : Number.Magnitude)
  | notANumber
  | text (s : String)
  deriving Repr, DecidableEq

/-- A kind that a tag can ask for. -/
inductive AskedKind where
  | boolean
  | integer
  | float
  | null
  deriving Repr, DecidableEq

namespace AskedKind

def text : AskedKind → String
  | boolean => "a boolean"
  | integer => "an integer"
  | float => "a float"
  | null => "null"

/-- The kind that a tag asks for. -/
def ofTag? (tag : String) : Option AskedKind :=
  match tag with
  | "tag:yaml.org,2002:bool" => some boolean
  | "tag:yaml.org,2002:int" => some integer
  | "tag:yaml.org,2002:float" => some float
  | "tag:yaml.org,2002:null" => some null
  | _ => none

end AskedKind

namespace Kind

/-- Whether a text is a way to write nothing. -/
def isNull (s : String) : Bool :=
  ["null", "Null", "NULL", "~"].contains s

/-- The truth value that a text stands for. -/
def boolean? (s : String) : Option Bool :=
  if ["true", "True", "TRUE"].contains s then some true
  else if ["false", "False", "FALSE"].contains s then some false
  else none

def digit? (base : Nat) (c : Char) : Option Nat :=
  (hexValue? c).filter (· < base)

/-- The value of digits in a base; there has to be one. -/
def natural? (base : Nat) (cs : List Char) : Option Nat :=
  if cs.isEmpty then none
  else (cs.mapM (digit? base)).map fun digits => digits.foldl (fun n d => base * n + d) 0

/-- The base that the mark at the start of digits stands for, and the digits. -/
def base : List Char → Nat × List Char
  | '0' :: 'x' :: rest => (16, rest)
  | '0' :: 'o' :: rest => (8, rest)
  | '0' :: 'b' :: rest => (2, rest)
  | cs => (10, cs)

/-- Whether digits with a zero in front are more than that zero; such digits are no number. -/
def hasLeadingZero (cs : List Char) : Bool :=
  1 < cs.length && cs.head? = some '0' && cs.all Char.isDigit

/-- The whole number that a text stands for, if it lies between `-2 ^ 127` and `2 ^ 128`. -/
def integer? (s : String) : Option Int := do
  let (isNegative, cs) := Number.splitSign s.toList
  if hasLeadingZero cs then none
  let (base, digits) := base cs
  let n ← natural? base digits
  if isNegative then
    if n ≤ Number.pow2 127 then some (-n) else none
  else if n < Number.pow2 128 then some n else none

/-- The infinite or undefined number that a text stands for. -/
def special? (s : String) : Option Kind :=
  if [".inf", ".Inf", ".INF", "+.inf", "+.Inf", "+.INF"].contains s then
    some (float false .infinite)
  else if ["-.inf", "-.Inf", "-.INF"].contains s then some (float true .infinite)
  else if [".nan", ".NaN", ".NAN"].contains s then some notANumber
  else none

/-- The number with decimals or an exponent that a text stands for, if it is finite. -/
def finite? (s : String) : Option Kind := do
  let (isNegative, cs) := Number.splitSign s.toList
  let numeral ← Number.Numeral.parse cs
  match numeral.toMagnitude with
  | .infinite => none
  | m => some (float isNegative m)

/-- The number with decimals or an exponent that a text stands for. -/
def float? (s : String) : Option Kind :=
  (special? s).or (finite? s)

/-- What a plain scalar without a tag stands for. -/
def ofPlain (s : String) : Kind :=
  if s = "" || isNull s then null
  else if let some b := boolean? s then boolean b
  else if let some n := integer? s then integer n
  else if hasLeadingZero (Number.splitSign s.toList).2 then text s
  else (float? s).getD (text s)

/-- What a text stands for when a tag asks for a kind. -/
def asked? (s : String) : AskedKind → Option Kind
  | .boolean => (boolean? s).map boolean
  | .integer => (integer? s).map integer
  | .float => float? s
  | .null => if isNull s then some null else none

/-- Digits with a point behind them, unless there is one in them. -/
def withPoint (digits : String) : String :=
  if digits.toList.contains '.' then digits else digits ++ ".0"

/-- Whether a whole number fits into 64 bits, with a sign or without. -/
def fitsWord (n : Int) : Bool :=
  -(Number.pow2 63 : Int) ≤ n && n < Number.pow2 64

def describe : Kind → String
  | null => "unit value"
  | boolean b => "boolean `" ++ toString b ++ "`"
  | integer n =>
    "integer `" ++ toString n ++ "`" ++
      if fitsWord n then "" else if n < 0 then " as i128" else " as u128"
  | float isNegative m =>
    "floating point `" ++ (if isNegative then "-" else "") ++ withPoint m.text ++ "`"
  | notANumber => "floating point `" ++ withPoint "NaN" ++ "`"
  | text s => "string " ++ Text.quote s

end Kind

namespace Scalar

/-- What a scalar stands for; an error names the kind that its tag asks for in vain. -/
def kind (s : Scalar) : Except AskedKind Kind :=
  match s.tag with
  | none => .ok (if s.isPlain then .ofPlain s.text else .text s.text)
  | some tag =>
    match AskedKind.ofTag? tag with
    | some asked =>
      match Kind.asked? s.text asked with
      | some kind => .ok kind
      | none => .error asked
    | none =>
      let isLocal := tag.toList.head? == some '!'
      .ok (if isLocal && s.isPlain then .ofPlain s.text else .text s.text)

end Scalar

end SchemaMigration.Yaml
