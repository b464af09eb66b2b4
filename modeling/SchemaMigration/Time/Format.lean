import SchemaMigration.Time.Instant

/-! # Instants as texts

The written forms of an instant: to the second for people, with six decimals for the tracking
table, and in the interchange form with a `T`, a `Z` and as many decimals as are needed.
-/

namespace SchemaMigration.Time

/-- A number in decimal digits, with zeros in front up to the given width. -/
def padded (width n : Nat) : String :=
  let digits := Nat.repr n
  String.ofList (List.replicate (width - digits.length) '0') ++ digits

/-- A year in at least four digits, with a sign outside the years 0 to 9999. -/
def yearText (year : Int) : String :=
  if year < 0 then "-" ++ padded 4 year.natAbs
  else if year < 10000 then padded 4 year.toNat
  else "+" ++ padded 4 year.toNat

def Date.text (d : Date) : String :=
  yearText d.year ++ "-" ++ padded 2 d.month ++ "-" ++ padded 2 d.day

namespace DateTime

/-- The time of day to the second, with colons. -/
def clockText (d : DateTime) : String :=
  padded 2 d.hour ++ ":" ++ padded 2 d.minute ++ ":" ++ padded 2 d.second

end DateTime

namespace Instant

/-- An instant to the second, for people to read. -/
def toSecondsText (t : Instant) : String :=
  let d := t.toDateTime
  d.date.text ++ " " ++ d.clockText

/-- An instant to the microsecond, always with six decimals. -/
def toMicrosText (t : Instant) : String :=
  let d := t.toDateTime
  d.date.text ++ " " ++ d.clockText ++ "." ++ padded 6 (d.nanos / 1000)

/-- The decimals of a second in groups of three, as few groups as are exact. -/
def decimals (nanos : Nat) : String :=
  if nanos = 0 then ""
  else if nanos % 1000000 = 0 then "." ++ padded 3 (nanos / 1000000)
  else if nanos % 1000 = 0 then "." ++ padded 6 (nanos / 1000)
  else "." ++ padded 9 nanos

/-- An instant in the interchange form. -/
def toInterchangeText (t : Instant) : String :=
  let d := t.toDateTime
  d.date.text ++ "T" ++ d.clockText ++ decimals d.nanos ++ "Z"

end Instant

/-- An optional instant to the second, with a hyphen where there is none. -/
def secondsTextOrDash : Option Instant → String
  | some t => t.toSecondsText
  | none => "-"

end SchemaMigration.Time
