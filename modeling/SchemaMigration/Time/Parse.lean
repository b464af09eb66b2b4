import SchemaMigration.Number.Power
import SchemaMigration.Text.Blank
import SchemaMigration.Time.Instant

/-! # Reading instants from texts

Reads a date, blanks, a time of day and optional decimals. Blanks may also stand in front of every
number. What cannot be read is told apart by its cause.
-/

namespace SchemaMigration.Time

/-- Why a text is no instant. -/
inductive ParseFault where
  | invalid
  | tooShort
  | trailing
  | outOfRange
  deriving Repr, DecidableEq

def ParseFault.message : ParseFault → String
  | .invalid => "input contains invalid characters"
  | .tooShort => "premature end of input"
  | .trailing => "trailing input"
  | .outOfRange => "input is out of range"

/-- The value of decimal digits, most significant first. -/
def digitsValue (ds : List Char) : Nat :=
  ds.foldl (fun n c => 10 * n + (c.toNat - 48)) 0

/-- The digits at the start of a text, `limit` at most, and the rest. -/
def takeDigits (limit : Nat) (cs : List Char) : List Char × List Char :=
  let ds := (cs.take limit).takeWhile Char.isDigit
  (ds, cs.drop ds.length)

/-- Reads an unsigned number of at most `limit` digits. -/
def parseNumber (limit : Nat) (cs : List Char) : Except ParseFault (Nat × List Char) :=
  match takeDigits limit cs with
  | ([], []) => .error .tooShort
  | ([], _ :: _) => .error .invalid
  | (ds, rest) => .ok (digitsValue ds, rest)

/-- Reads a number after blanks and checks that it lies in an interval. -/
def parseField (low high : Nat) (cs : List Char) : Except ParseFault (Nat × List Char) := do
  let (n, rest) ← parseNumber 2 (cs.dropWhile Text.isBlank)
  if low ≤ n ∧ n ≤ high then .ok (n, rest) else .error .outOfRange

/-- Reads a year after blanks: four digits, or a sign and any number of digits. -/
def parseYear (cs : List Char) : Except ParseFault (Int × List Char) :=
  match cs.dropWhile Text.isBlank with
  | '-' :: rest => do
    let (n, rest) ← parseNumber rest.length rest
    .ok (-(n : Int), rest)
  | '+' :: rest => do
    let (n, rest) ← parseNumber rest.length rest
    .ok (n, rest)
  | cs => do
    let (n, rest) ← parseNumber 4 cs
    .ok (n, rest)

def parseMark (mark : Char) : List Char → Except ParseFault (List Char)
  | [] => .error .tooShort
  | c :: rest => if c = mark then .ok rest else .error .invalid

/-- Reads the decimals of a second as nanoseconds, if a point stands there. Digits after the ninth
    are passed over. -/
def parseDecimals : List Char → Except ParseFault (Nat × List Char)
  | '.' :: cs => do
    let (ds, rest) := takeDigits 9 cs
    let (n, _) ← parseNumber 9 cs
    .ok (n * Number.pow10 (9 - ds.length), rest.dropWhile Char.isDigit)
  | cs => .ok (0, cs)

def parseDateTime (cs : List Char) : Except ParseFault DateTime := do
  let (year, cs) ← parseYear cs
  let cs ← parseMark '-' cs
  let (month, cs) ← parseField 1 12 cs
  let cs ← parseMark '-' cs
  let (day, cs) ← parseField 1 31 cs
  let (hour, cs) ← parseField 0 23 cs
  let cs ← parseMark ':' cs
  let (minute, cs) ← parseField 0 59 cs
  let cs ← parseMark ':' cs
  let (second, cs) ← parseField 0 60 cs
  let (nanos, cs) ← parseDecimals cs
  if !cs.isEmpty then .error .trailing
  else if (Date.mk year month day).isValid then .ok ⟨⟨year, month, day⟩, hour, minute, second, nanos⟩
  else .error .outOfRange

/-- Reads an instant from the whole of a text. -/
def Instant.parse (text : String) : Except ParseFault Instant := do
  let d ← parseDateTime text.toList
  if firstDay ≤ d.date.toDays ∧ d.date.toDays ≤ lastDay then .ok d.toInstant
  else .error .outOfRange

end SchemaMigration.Time
