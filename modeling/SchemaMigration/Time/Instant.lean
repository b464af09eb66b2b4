import SchemaMigration.Time.Calendar

/-! # Instants

Points in time in coordinated universal time, and readings of the clock. An `Instant` may fall into a
leap second; a `Reading` of the clock is a whole number of microseconds in the years 1 to 9999.
-/

namespace SchemaMigration.Time

/-- Seconds since 1970 and the nanoseconds passed in that second. In a leap second the nanoseconds
    run on from 1000000000. -/
structure Instant where
  seconds : Int
  nanos : Nat
  deriving Repr, DecidableEq

/-- A date and the time of day on it. The second 60 is a leap second. -/
structure DateTime where
  date : Date
  hour : Nat
  minute : Nat
  second : Nat
  nanos : Nat
  deriving Repr, DecidableEq

/-- The first day that an instant can fall on, 1 January of the year -262143. -/
def firstDay : Int := Date.toDays ⟨-262143, 1, 1⟩

/-- The last day that an instant can fall on, 31 December of the year 262142. -/
def lastDay : Int := Date.toDays ⟨262142, 12, 31⟩

namespace Instant

/-- The instant with the given seconds and nanoseconds, if there is one: leap seconds stand only at
    the end of a minute, and years are bounded. -/
def ofUnix? (seconds : Int) (nanos : Nat) : Option Instant :=
  let day := seconds / 86400
  if firstDay ≤ day ∧ day ≤ lastDay ∧ nanos < 2000000000 ∧
      (1000000000 ≤ nanos → seconds % 60 = 59) then
    some ⟨seconds, nanos⟩
  else none

def toDateTime (t : Instant) : DateTime :=
  let ofDay := (t.seconds % 86400).toNat
  let leap := if t.nanos < 1000000000 then 0 else 1
  ⟨Date.ofDays (t.seconds / 86400), ofDay / 3600, ofDay / 60 % 60, ofDay % 60 + leap,
    t.nanos - leap * 1000000000⟩

end Instant

def DateTime.toInstant (d : DateTime) : Instant :=
  let leap := if d.second = 60 then 1 else 0
  ⟨d.date.toDays * 86400 + (d.hour * 3600 + d.minute * 60 + (d.second - leap) : Nat),
    d.nanos + leap * 1000000000⟩

/-- A reading of the clock, in microseconds since 1970. -/
structure Reading where
  micros : Int
  inYears : -62135596800000000 ≤ micros ∧ micros ≤ 253402300799999999
  deriving DecidableEq

/-- The reading of a clock that stands at a number of microseconds since 1970. The clock does not go
    beyond the years that it can show. -/
def Reading.ofMicros (micros : Int) : Reading :=
  ⟨max (-62135596800000000) (min micros 253402300799999999), by omega⟩

def Reading.toInstant (r : Reading) : Instant :=
  ⟨r.micros / 1000000, (r.micros % 1000000).toNat * 1000⟩

end SchemaMigration.Time
