import Mathlib.Tactic.IntervalCases
import SchemaMigration.Time.Calendar

/-! # Days and dates

Counting days and writing dates are inverse to each other: every day has a date that exists, and the
date leads back to the day. A cycle of 400 years that begin in March consists of centuries of 36524
days, periods of 1461 days and years of 365 days, where only the last part of each may be a day
longer or shorter.
-/

namespace SchemaMigration.Time

/-- A day of the cycle lies in the century `c`, the period of four years `p` of that century and the
    year `y` of that period, `n` days after the first of March. -/
structure CycleDay (d c p y n : Int) : Prop where
  century : 0 ≤ c ∧ c ≤ 3
  period : 0 ≤ p ∧ p ≤ 24
  year : 0 ≤ y ∧ y ≤ 3
  day : 0 ≤ n ∧ n ≤ 365
  /-- Only the last year of a period ends with a leap day, and in the last period of a century only
      if the century is the last one. -/
  leap : n = 365 → y = 3 ∧ (p = 24 → c = 3)
  sum : d = 36524 * c + 1461 * p + 365 * y + n

theorem exists_cycleDay {d : Int} (low : 0 ≤ d) (high : d ≤ 146096) :
    ∃ c p y n, CycleDay d c p y n := by
  -- The last day of the cycle and the last day of a period would open a fifth part.
  obtain ⟨c, century⟩ : ∃ c, c = if d / 36524 = 4 then 3 else d / 36524 := ⟨_, rfl⟩
  obtain ⟨p, period⟩ : ∃ p, p = (d - 36524 * c) / 1461 := ⟨_, rfl⟩
  obtain ⟨q, quarter⟩ : ∃ q, q = (d - 36524 * c - 1461 * p) / 365 := ⟨_, rfl⟩
  obtain ⟨y, year⟩ : ∃ y, y = if q = 4 then 3 else q := ⟨_, rfl⟩
  refine ⟨c, p, y, d - 36524 * c - 1461 * p - 365 * y, ?_, ?_, ?_, ?_, ?_, ?_⟩ <;> omega

namespace CycleDay

variable {d c p y n : Int}

theorem yearOfCycle (h : CycleDay d c p y n) :
    (d - d / 1460 + d / 36524 - d / 146096) / 365 = 100 * c + 4 * p + y := by
  obtain ⟨century, period, year, day, leap, sum⟩ := h
  have centuries : d / 146096 = 0 ∧ d / 36524 = c ∨
      d / 146096 = 1 ∧ d / 36524 = c + 1 ∧ n = 365 := by
    omega
  have periods : d / 1460 = 25 * c + p ∧ n ≤ 364 ∨ d / 1460 = 25 * c + p + 1 ∧ 1 ≤ n := by
    omega
  omega

theorem dayOfYear (h : CycleDay d c p y n) :
    d - (365 * (100 * c + 4 * p + y) + (100 * c + 4 * p + y) / 4 - (100 * c + 4 * p + y) / 100) =
      n := by
  obtain ⟨century, period, year, day, leap, sum⟩ := h
  omega

end CycleDay

def dateFromMarch (year n : Int) : Date :=
  let monthFromMarch := (5 * n + 2) / 153
  let month := if monthFromMarch < 10 then monthFromMarch + 3 else monthFromMarch - 9
  ⟨if month ≤ 2 then year + 1 else year, month.toNat, (n - (153 * monthFromMarch + 2) / 5 + 1).toNat⟩

section
variable {d c p y n : Int} (h : CycleDay d c p y n) (cycle : Int)
include h

theorem ofDays_eq_dateFromMarch {days : Int} (sum : days + 719468 = 146097 * cycle + d) :
    Date.ofDays days = dateFromMarch (400 * cycle + 100 * c + 4 * p + y) n := by
  obtain ⟨century, period, year, day, leap, inCycle⟩ := id h
  have whole : (days + 719468) / 146097 = cycle := by omega
  have rest : (days + 719468) % 146097 = d := by omega
  unfold Date.ofDays
  simp only [whole, rest, h.yearOfCycle, h.dayOfYear]
  unfold dateFromMarch
  simp only
  congr 1
  split <;> omega

theorem toDays_dateFromMarch :
    (dateFromMarch (400 * cycle + 100 * c + 4 * p + y) n).toDays = 146097 * cycle + d - 719468 := by
  obtain ⟨century, period, year, day, leap, inCycle⟩ := h
  obtain ⟨m, ofDay⟩ : ∃ m, m = (5 * n + 2) / 153 := ⟨_, rfl⟩
  have inYear : 0 ≤ m ∧ m ≤ 11 := by omega
  unfold Date.toDays dateFromMarch
  simp only [← ofDay]
  by_cases early : m < 10
  · have month : ¬m + 3 ≤ 2 := by omega
    have written : ¬((m + 3).toNat : Int) ≤ 2 := by omega
    simp only [early, month, written, if_true, if_false]
    omega
  · have month : m - 9 ≤ 2 := by omega
    have written : ((m - 9).toNat : Int) ≤ 2 := by omega
    simp only [early, month, written, if_true, if_false]
    omega

theorem dateFromMarch_isValid :
    (dateFromMarch (400 * cycle + 100 * c + 4 * p + y) n).isValid = true := by
  obtain ⟨century, period, year, day, leap, inCycle⟩ := h
  obtain ⟨m, ofDay⟩ : ∃ m, m = (5 * n + 2) / 153 := ⟨_, rfl⟩
  have first : 0 ≤ m := by omega
  have last : m ≤ 11 := by omega
  unfold Date.isValid dateFromMarch
  simp only [← ofDay]
  -- Every month has its own length; that of February depends on the year.
  interval_cases m <;> simp [daysInMonth, isLeapYear] <;> omega

end

theorem exists_place (days : Int) : ∃ cycle d c p y n,
    CycleDay d c p y n ∧ days + 719468 = 146097 * cycle + d := by
  obtain ⟨c, p, y, n, place⟩ :=
    exists_cycleDay (d := (days + 719468) % 146097) (by omega) (by omega)
  exact ⟨(days + 719468) / 146097, _, c, p, y, n, place, by omega⟩

theorem ofDays_isValid (days : Int) : (Date.ofDays days).isValid = true := by
  obtain ⟨cycle, d, c, p, y, n, place, sum⟩ := exists_place days
  rw [ofDays_eq_dateFromMarch place cycle sum]
  exact dateFromMarch_isValid place cycle

theorem toDays_ofDays (days : Int) : (Date.ofDays days).toDays = days := by
  obtain ⟨cycle, d, c, p, y, n, place, sum⟩ := exists_place days
  rw [ofDays_eq_dateFromMarch place cycle sum, toDays_dateFromMarch place]
  omega

/-- From the first day of the year 1 to the last day of the year 9999, years have up to four
    digits. -/
theorem year_ofDays {days : Int} (low : -719162 ≤ days) (high : days ≤ 2932896) :
    1 ≤ (Date.ofDays days).year ∧ (Date.ofDays days).year ≤ 9999 := by
  obtain ⟨cycle, d, c, p, y, n, place, sum⟩ := exists_place days
  rw [ofDays_eq_dateFromMarch place cycle sum]
  obtain ⟨century, period, year, day, leap, inCycle⟩ := place
  unfold dateFromMarch
  simp only
  omega

theorem days_of_year {days : Int} (first : 1 ≤ (Date.ofDays days).year)
    (last : (Date.ofDays days).year ≤ 9999) : -719162 ≤ days ∧ days ≤ 2932896 := by
  obtain ⟨cycle, d, c, p, y, n, place, sum⟩ := exists_place days
  rw [ofDays_eq_dateFromMarch place cycle sum] at first last
  obtain ⟨century, period, year, day, leap, inCycle⟩ := place
  unfold dateFromMarch at first last
  simp only at first last
  omega

end SchemaMigration.Time
