import SchemaMigration.Time.Format
import SchemaMigration.Time.Parse

/-! # Stored timestamps

The database keeps timestamps to the microsecond, over a range of years that goes beyond four
digits in both directions, and two special values at the ends of their order.
-/

namespace SchemaMigration

inductive Timestamp where
  | beforeAll
  /-- Microseconds since 1970. -/
  | finite (micros : Int)
  | afterAll
  deriving Repr, DecidableEq

namespace Timestamp

def notLater : Timestamp → Timestamp → Bool
  | beforeAll, _ => true
  | _, afterAll => true
  | finite a, finite b => a ≤ b
  | _, _ => false

def ofReading (r : Time.Reading) : Timestamp :=
  finite r.micros

/-- The decimals of a second, without zeros at their end and with no point when there are none. -/
def decimals (micros : Nat) : String :=
  if micros = 0 then ""
  else
    let digits := (Time.padded 6 micros).toList
    "." ++ String.ofList ((digits.reverse.dropWhile (· = '0')).reverse)

/-- A date, with the era where it lies before year 1. -/
def dateText (d : Time.Date) : String :=
  let year := if d.year ≤ 0 then (1 - d.year).toNat else d.year.toNat
  let monthAndDay := "-" ++ Time.padded 2 d.month ++ "-" ++ Time.padded 2 d.day
  Time.padded 4 year ++ monthAndDay ++ if d.year ≤ 0 then " (BC)" else ""

/-- A timestamp as the database writes it. -/
def text : Timestamp → String
  | beforeAll => "-infinity"
  | afterAll => "infinity"
  | finite micros =>
    let d := (Time.Instant.mk (micros / 1000000) ((micros % 1000000).toNat * 1000)).toDateTime
    dateText d.date ++ " " ++ d.clockText ++ decimals (d.nanos / 1000)

/-- Splits off a number of digits that ends before the given mark. -/
def digitsUpTo (mark : Char) (cs : List Char) : Option (Nat × List Char) :=
  let ds := cs.takeWhile Char.isDigit
  match ds, cs.drop ds.length with
  | _ :: _, c :: rest => if c = mark then some (Time.digitsValue ds, rest) else none
  | _, _ => none

/-- Reads the time of day, to the microsecond, from the whole of a text. -/
def parseClock (cs : List Char) : Option (Nat × Nat × Nat × Nat) := do
  let (hour, cs) ← digitsUpTo ':' cs
  let (minute, cs) ← digitsUpTo ':' cs
  let (second, rest) := Time.takeDigits cs.length cs
  if second.isEmpty then none
  let micros ← match rest with
    | [] => some 0
    | '.' :: ds =>
      let six := (ds ++ List.replicate 6 '0').take 6
      if !ds.isEmpty && ds.all Char.isDigit then some (Time.digitsValue six) else none
    | _ => none
  if hour < 24 && minute < 60 && Time.digitsValue second < 60 then
    some (hour, minute, Time.digitsValue second, micros)
  else none

/-- Reads a timestamp as the database accepts it: a special value, or a date with an optional era
    and an optional time of day. -/
def parse (text : String) : Option Timestamp :=
  if text = "infinity" then some afterAll
  else if text = "-infinity" then some beforeAll
  else do
    let (year, cs) ← digitsUpTo '-' text.toList
    let (month, cs) ← digitsUpTo '-' cs
    let (dayDigits, cs) := Time.takeDigits 2 cs
    if dayDigits.isEmpty then none
    let era := " (BC)".toList
    let (year, cs) : Int × List Char :=
      if era.isPrefixOf cs then (1 - (year : Int), cs.drop era.length) else (year, cs)
    let date := Time.Date.mk year month (Time.digitsValue dayDigits)
    if !date.isValid then none
    let (hour, minute, second, micros) ← match cs with
      | [] => some (0, 0, 0, 0)
      | c :: rest => if c = ' ' || c = 'T' then parseClock rest else none
    some (finite ((date.toDays * 86400 + (hour * 3600 + minute * 60 + second : Nat)) * 1000000 + micros))

end Timestamp

end SchemaMigration
