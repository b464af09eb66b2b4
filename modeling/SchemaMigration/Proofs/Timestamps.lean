import Mathlib.Data.List.TakeWhile
import SchemaMigration.Proofs.Calendar
import SchemaMigration.Tracking.Record

/-! # Timestamps read back

A reading of the clock is stored as a timestamp, and the database writes timestamps in a form of its
own: without decimals that are zero at their end, and with none at all for a whole second. What it
writes for a reading is read as the instant of that reading.
-/

namespace SchemaMigration.Time

/-- Digits, as many as a width asks for, that stand for a number. -/
structure Digits (width n : Nat) (ds : List Char) : Prop where
  length : ds.length = width
  digits : ∀ c ∈ ds, c.isDigit = true
  value : digitsValue ds = n

theorem digitsValue_concat (ds : List Char) (c : Char) :
    digitsValue (ds ++ [c]) = 10 * digitsValue ds + (c.toNat - 48) := by
  rw [digitsValue, List.foldl_append]
  rfl

theorem digitsValue_zeros (ds : List Char) (count : Nat) :
    digitsValue (ds ++ List.replicate count '0') = digitsValue ds * Number.pow10 count := by
  induction count with
  | zero =>
      rw [List.replicate_zero, List.append_nil]
      exact (Nat.mul_one _).symm
  | succ count ih =>
      have zero : '0'.toNat - 48 = 0 := rfl
      rw [List.replicate_succ', ← List.append_assoc, digitsValue_concat, ih, Number.pow10_succ, zero,
        Nat.mul_comm 10, Nat.mul_assoc, Nat.add_zero]

theorem digitsValue_toDigits (n : Nat) : digitsValue (Nat.toDigits 10 n) = n :=
  Nat.ofDigitChars_toDigits (by decide) (by decide)

theorem digits_padded (width : Nat) {n : Nat} (fits : n < Number.pow10 width) (wide : 0 < width) :
    Digits width n (padded width n).toList := by
  have written : (padded width n).toList =
      List.replicate (width - (Nat.toDigits 10 n).length) '0' ++ Nat.toDigits 10 n := by
    simp only [padded, String.toList_append, String.toList_ofList, Nat.toList_repr,
      ← String.length_toList]
  have short : (Nat.toDigits 10 n).length ≤ width :=
    (Nat.length_toDigits_le_iff (by decide) wide).mpr fits
  rw [written]
  refine ⟨?_, ?_, ?_⟩
  · rw [List.length_append, List.length_replicate]
    omega
  · intro c inside
    rcases List.mem_append.mp inside with zero | digit
    · rw [List.eq_of_mem_replicate zero]
      rfl
    · exact Nat.isDigit_of_mem_toDigits (by decide) (by decide) digit
  · have zeros := digitsValue_zeros [] (width - (Nat.toDigits 10 n).length)
    rw [List.nil_append, digitsValue, digitsValue, List.foldl_nil, Nat.zero_mul] at zeros
    rw [digitsValue, List.foldl_append, zeros]
    exact digitsValue_toDigits n

theorem isBlank_of_isDigit {c : Char} (digit : c.isDigit = true) : Text.isBlank c = false := by
  simp only [Char.isDigit, Bool.and_eq_true, decide_eq_true_eq] at digit
  have low : 48 ≤ c.toNat := UInt32.le_iff_toNat_le.mp digit.1
  have high : c.toNat ≤ 57 := UInt32.le_iff_toNat_le.mp digit.2
  simp only [Text.isBlank, Bool.or_eq_false_iff, Bool.and_eq_false_iff, decide_eq_false_iff_not,
    beq_eq_false_iff_ne]
  omega

theorem takeDigits_append {limit : Nat} {ds : List Char} (all : ∀ c ∈ ds, c.isDigit = true)
    (long : ds.length = limit) (rest : List Char) : takeDigits limit (ds ++ rest) = (ds, rest) := by
  have taken : ((ds ++ rest).take limit).takeWhile Char.isDigit = ds := by
    rw [← long, List.take_left, List.takeWhile_eq_self_iff.mpr all]
  simp only [takeDigits, taken, List.drop_left]

theorem takeDigits_whole (limit : Nat) {ds : List Char} (all : ∀ c ∈ ds, c.isDigit = true)
    (short : ds.length ≤ limit) : takeDigits limit ds = (ds, []) := by
  have taken : (ds.take limit).takeWhile Char.isDigit = ds := by
    rw [List.take_of_length_le short, List.takeWhile_eq_self_iff.mpr all]
  simp only [takeDigits, taken, List.drop_length]

namespace Digits

variable {width n : Nat} {ds : List Char} (h : Digits width n ds)
include h

theorem begins (wide : 0 < width) : ∃ d others, ds = d :: others ∧ d.isDigit = true := by
  cases ds with
  | nil => exact absurd h.length (Nat.ne_of_lt wide)
  | cons d others => exact ⟨d, others, rfl, h.digits d List.mem_cons_self⟩

theorem ne_nil (wide : 0 < width) : ds ≠ [] := by
  obtain ⟨d, others, rfl, -⟩ := h.begins wide
  exact List.cons_ne_nil d others

theorem parseNumber_eq (wide : 0 < width) (rest : List Char) :
    parseNumber width (ds ++ rest) = .ok (n, rest) := by
  rw [parseNumber, takeDigits_append h.digits h.length, ← h.value]
  obtain ⟨d, others, rfl, -⟩ := h.begins wide
  rfl

theorem dropBlanks_eq (wide : 0 < width) (rest : List Char) :
    (ds ++ rest).dropWhile Text.isBlank = ds ++ rest := by
  obtain ⟨d, others, rfl, digit⟩ := h.begins wide
  rw [List.cons_append, List.dropWhile_cons_of_neg]
  simp only [isBlank_of_isDigit digit, Bool.false_eq_true, not_false_eq_true]

theorem parseYear_eq (four : width = 4) (rest : List Char) :
    parseYear (ds ++ rest) = .ok (n, rest) := by
  subst four
  have number := h.parseNumber_eq (by decide) rest
  rw [parseYear, h.dropBlanks_eq (by decide)]
  obtain ⟨d, others, rfl, digit⟩ := h.begins (by decide)
  -- A digit is no sign.
  split
  · rename_i sign
    rw [(List.cons.inj sign).1] at digit
    cases digit
  · rename_i sign
    rw [(List.cons.inj sign).1] at digit
    cases digit
  · rw [number]
    rfl

theorem parseField_eq {low high : Nat} (two : width = 2) (bounds : low ≤ n ∧ n ≤ high)
    (rest : List Char) : parseField low high (ds ++ rest) = .ok (n, rest) := by
  subst two
  rw [parseField, h.dropBlanks_eq (by decide), h.parseNumber_eq (by decide)]
  exact if_pos bounds

end Digits

theorem dropped_zeros (ds : List Char) : ∃ zeros,
    ds = (ds.reverse.dropWhile (· = '0')).reverse ++ List.replicate zeros '0' := by
  refine ⟨(ds.reverse.takeWhile (· = '0')).length, ?_⟩
  have only : ds.reverse.takeWhile (· = '0') =
      List.replicate (ds.reverse.takeWhile (· = '0')).length '0' := by
    apply List.eq_replicate_of_mem
    intro c inside
    have zero := List.mem_takeWhile_imp inside
    exact of_decide_eq_true zero
  rw [← List.reverse_replicate, ← only, ← List.reverse_append, List.takeWhile_append_dropWhile,
    List.reverse_reverse]

theorem parseDecimals_decimals {micros : Nat} (small : micros < 1000000) :
    parseDecimals (Timestamp.decimals micros).toList = .ok (micros * 1000, []) := by
  unfold Timestamp.decimals
  by_cases whole : micros = 0
  · rw [if_pos whole, whole]
    rfl
  · obtain ⟨length, digits, value⟩ := digits_padded 6 small (by decide)
    rw [if_neg whole]
    generalize (padded 6 micros).toList = ds at length digits value ⊢
    obtain ⟨zeros, parts⟩ := dropped_zeros ds
    simp only [String.toList_append, String.toList_ofList]
    generalize (ds.reverse.dropWhile (· = '0')).reverse = kept at parts ⊢
    change parseDecimals ('.' :: kept) = _
    rw [parts, List.length_append, List.length_replicate] at length
    rw [parts, digitsValue_zeros] at value
    have all : ∀ c ∈ kept, c.isDigit = true := fun c inside =>
      digits c (parts ▸ List.mem_append_left _ inside)
    have scale : 9 - kept.length = zeros + 3 := by omega
    have taken := takeDigits_whole 9 all (by omega)
    have number : parseNumber 9 kept = .ok (digitsValue kept, []) := by
      rw [parseNumber, taken]
      cases kept with
      | nil =>
          rw [digitsValue, List.foldl_nil, Nat.zero_mul] at value
          exact absurd value.symm whole
      | cons => rfl
    simp only [parseDecimals, taken, number, scale, bind, Except.bind, List.dropWhile_nil,
      Number.pow10_succ, ← value, Nat.mul_assoc]

theorem daysInMonth_le (year : Int) (month : Nat) : daysInMonth year month ≤ 31 := by
  unfold daysInMonth
  split <;> (try split) <;> decide

theorem day_le {d : Date} (valid : d.isValid = true) : d.month ≤ 12 ∧ d.day ≤ 31 := by
  simp only [Date.isValid, Bool.and_eq_true, decide_eq_true_eq] at valid
  exact ⟨valid.1.1.2, Nat.le_trans valid.2 (daysInMonth_le d.year d.month)⟩

theorem parseDateTime_text {d : DateTime} (valid : d.date.isValid = true)
    (years : 1 ≤ d.date.year ∧ d.date.year ≤ 9999) (hour : d.hour ≤ 23) (minute : d.minute ≤ 59)
    (second : d.second ≤ 60) (nanos : d.nanos < 1000000000 ∧ d.nanos % 1000 = 0) :
    parseDateTime (Timestamp.dateText d.date ++ " " ++ d.clockText ++
      Timestamp.decimals (d.nanos / 1000)).toList = .ok d := by
  obtain ⟨monthHigh, dayHigh⟩ := day_le valid
  obtain ⟨⟨year, month, day⟩, h, m, s, n⟩ := d
  simp only at years hour minute second nanos monthHigh dayHigh
  obtain ⟨monthLow, dayLow⟩ : 1 ≤ month ∧ 1 ≤ day := by
    simp only [Date.isValid, Bool.and_eq_true, decide_eq_true_eq] at valid
    exact ⟨valid.1.1.1, valid.1.2⟩
  have noEra : ¬year ≤ 0 := by omega
  have small : n / 1000 < 1000000 := by omega
  have whole : n / 1000 * 1000 = n := by omega
  have two : Number.pow10 2 = 100 := rfl
  have four : Number.pow10 4 = 10000 := rfl
  have ofYear := digits_padded 4 (n := year.toNat) (by omega) (by decide)
  have ofMonth := digits_padded 2 (n := month) (by omega) (by decide)
  have ofDay := digits_padded 2 (n := day) (by omega) (by decide)
  have ofHour := digits_padded 2 (n := h) (by omega) (by decide)
  have ofMinute := digits_padded 2 (n := m) (by omega) (by decide)
  have ofSecond := digits_padded 2 (n := s) (by omega) (by decide)
  have written : (Timestamp.dateText ⟨year, month, day⟩ ++ " " ++
      DateTime.clockText ⟨⟨year, month, day⟩, h, m, s, n⟩ ++ Timestamp.decimals (n / 1000)).toList =
      (padded 4 year.toNat).toList ++ '-' :: ((padded 2 month).toList ++ '-' ::
        ((padded 2 day).toList ++ ' ' :: ((padded 2 h).toList ++ ':' :: ((padded 2 m).toList ++
          ':' :: ((padded 2 s).toList ++ (Timestamp.decimals (n / 1000)).toList))))) := by
    simp [Timestamp.dateText, DateTime.clockText, noEra]
  have blank (cs : List Char) : parseField 0 23 (' ' :: cs) = parseField 0 23 cs := rfl
  rw [written]
  simp only [parseDateTime, ofYear.parseYear_eq rfl, parseMark, if_true,
    ofMonth.parseField_eq rfl ⟨monthLow, monthHigh⟩, ofDay.parseField_eq rfl ⟨dayLow, dayHigh⟩, blank,
    ofHour.parseField_eq rfl ⟨Nat.zero_le h, hour⟩,
    ofMinute.parseField_eq rfl ⟨Nat.zero_le m, minute⟩,
    ofSecond.parseField_eq rfl ⟨Nat.zero_le s, second⟩, parseDecimals_decimals small,
    bind, Except.bind, List.isEmpty_nil, Bool.not_true, Bool.false_eq_true, if_false,
    Int.toNat_of_nonneg (show 0 ≤ year by omega), whole]
  exact if_pos valid

theorem Reading.toDateTime_eq (r : Reading) :
    r.toInstant.toDateTime =
      ⟨Date.ofDays (r.micros / 1000000 / 86400), (r.micros / 1000000 % 86400).toNat / 3600,
        (r.micros / 1000000 % 86400).toNat / 60 % 60, (r.micros / 1000000 % 86400).toNat % 60,
        (r.micros % 1000000).toNat * 1000⟩ := by
  have noLeap : (r.micros % 1000000).toNat * 1000 < 1000000000 := by omega
  simp only [Instant.toDateTime, toInstant, noLeap, if_true, Nat.add_zero, Nat.zero_mul, Nat.sub_zero]

/-- What the database writes for a reading of the clock is read as the instant of the reading. -/
theorem parse_text_ofReading (r : Reading) :
    Instant.parse (Timestamp.ofReading r).text = .ok r.toInstant := by
  have first : firstDay ≤ -719162 := by decide
  have last : 2932896 ≤ lastDay := by decide
  have fields := r.toDateTime_eq
  have written : (Timestamp.ofReading r).text =
      Timestamp.dateText r.toInstant.toDateTime.date ++ " " ++ r.toInstant.toDateTime.clockText ++
        Timestamp.decimals (r.toInstant.toDateTime.nanos / 1000) := rfl
  rw [written]
  obtain ⟨low, high⟩ := r.inYears
  generalize r.toInstant.toDateTime = d at fields
  have read : parseDateTime (Timestamp.dateText d.date ++ " " ++ d.clockText ++
      Timestamp.decimals (d.nanos / 1000)).toList = .ok d := by
    subst fields
    apply parseDateTime_text
    · exact ofDays_isValid _
    · exact year_ofDays (by omega) (by omega)
    all_goals dsimp only; omega
  have inRange : firstDay ≤ d.date.toDays ∧ d.date.toDays ≤ lastDay := by
    rw [fields, toDays_ofDays]
    omega
  have same : d.toInstant = r.toInstant := by
    rw [fields]
    simp only [DateTime.toInstant, toDays_ofDays, Reading.toInstant]
    rw [if_neg (by omega), Instant.mk.injEq]
    exact ⟨by omega, by omega⟩
  unfold Instant.parse
  rw [read, ← same]
  exact if_pos inRange

end SchemaMigration.Time

namespace SchemaMigration

theorem Timestamp.toInstant_ofReading (r : Time.Reading) :
    (Timestamp.ofReading r).toInstant = .ok r.toInstant := by
  rw [toInstant, Time.parse_text_ofReading]
  rfl

end SchemaMigration
