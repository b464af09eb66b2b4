import SchemaMigration.Proofs.Paths
import SchemaMigration.Proofs.Recording

/-! # Times as they were written

A time goes to the database as a text with six decimals and comes back as a text with as many as are
needed. On the way it stays the same: the database reads the microsecond that was written, and what it
writes for it is read as the instant that it was. So a record has the times at which the tracker wrote
it, which `Move.Times` says for each move.
-/

namespace SchemaMigration.Time

theorem takeWhile_digits {ds : List Char} (all : ∀ c ∈ ds, c.isDigit = true) (mark : Char)
    (stop : mark.isDigit = false) (rest : List Char) :
    (ds ++ mark :: rest).takeWhile Char.isDigit = ds := by
  rw [List.takeWhile_append_of_pos all, List.takeWhile_cons_of_neg (by simp [stop]), List.append_nil]

namespace Digits

variable {width n : Nat} {ds : List Char} (h : Digits width n ds)
include h

theorem digitsUpTo_eq (wide : 0 < width) (mark : Char) (stop : mark.isDigit = false)
    (rest : List Char) : Timestamp.digitsUpTo mark (ds ++ mark :: rest) = some (n, rest) := by
  simp only [Timestamp.digitsUpTo, takeWhile_digits h.digits mark stop, List.drop_left, ← h.value]
  obtain ⟨d, others, rfl, -⟩ := h.begins wide
  exact if_pos rfl

theorem no_era (wide : 0 < width) (rest : List Char) :
    " (BC)".toList.isPrefixOf (' ' :: (ds ++ rest)) = false := by
  obtain ⟨d, others, rfl, digit⟩ := h.begins wide
  have other : '(' ≠ d := by
    rintro rfl
    cases digit
  change (' ' == ' ' && ('(' == d && _)) = false
  rw [beq_false_of_ne other]
  rfl

theorem ne_word (wide : 0 < width) (word : String) {text : String} {rest : List Char}
    (written : text.toList = ds ++ rest) (letter : word.toList.head?.map Char.isDigit = some false) :
    text ≠ word := by
  rintro rfl
  obtain ⟨d, others, rfl, digit⟩ := h.begins wide
  rw [written, List.cons_append, List.head?_cons, Option.map_some, digit] at letter
  cases letter

end Digits

theorem parseClock_padded {hour minute second micros : Nat} (hours : hour < 24) (minutes : minute < 60)
    (seconds : second < 60) (small : micros < 1000000) :
    Timestamp.parseClock ((padded 2 hour).toList ++ ':' :: ((padded 2 minute).toList ++
      ':' :: ((padded 2 second).toList ++ '.' :: (padded 6 micros).toList))) =
      some (hour, minute, second, micros) := by
  have two : Number.pow10 2 = 100 := rfl
  have ofHour := digits_padded 2 (n := hour) (by omega) (by decide)
  have ofMinute := digits_padded 2 (n := minute) (by omega) (by decide)
  have ofSecond := digits_padded 2 (n := second) (by omega) (by decide)
  have ofMicros := digits_padded 6 (n := micros) small (by decide)
  have someSecond := ofSecond.ne_nil (by decide)
  have someMicro := ofMicros.ne_nil (by decide)
  generalize (padded 2 second).toList = ss at ofSecond someSecond ⊢
  generalize (padded 6 micros).toList = ms at ofMicros someMicro ⊢
  have taken : takeDigits (ss ++ '.' :: ms).length (ss ++ '.' :: ms) = (ss, '.' :: ms) := by
    simp only [takeDigits, List.take_length, takeWhile_digits ofSecond.digits '.' rfl,
      List.drop_left]
  have six : (ms ++ List.replicate 6 '0').take 6 = ms := by
    rw [← ofMicros.length, List.take_left]
  have digits : ms.all Char.isDigit = true := List.all_eq_true.mpr ofMicros.digits
  simp only [Timestamp.parseClock, ofHour.digitsUpTo_eq (by decide) ':' rfl,
    ofMinute.digitsUpTo_eq (by decide) ':' rfl, taken, six, ofSecond.value, ofMicros.value,
    digits, hours, minutes, seconds, Option.bind_eq_bind, Option.bind_some, List.isEmpty_iff, someSecond,
    decide_true, Bool.and_self, if_true, if_false]
  simp [someMicro]

/-- A date with a time of day is read as the microsecond that it is. In these years the date has no sign
    and no era, and it begins with a digit, so that it is neither of the special values. -/
theorem parse_padded {d : DateTime} (valid : d.date.isValid = true)
    (years : 1 ≤ d.date.year ∧ d.date.year ≤ 9999) (hour : d.hour < 24) (minute : d.minute < 60)
    (second : d.second < 60) (nanos : d.nanos < 1000000000) :
    Timestamp.parse (d.date.text ++ " " ++ d.clockText ++ "." ++ padded 6 (d.nanos / 1000)) =
      some (.finite ((d.date.toDays * 86400 + (d.hour * 3600 + d.minute * 60 + d.second : Nat)) *
        1000000 + (d.nanos / 1000 : Nat))) := by
  obtain ⟨monthHigh, dayHigh⟩ := day_le valid
  obtain ⟨⟨year, month, day⟩, h, m, s, n⟩ := d
  simp only at years hour minute second nanos monthHigh dayHigh
  have two : Number.pow10 2 = 100 := rfl
  have four : Number.pow10 4 = 10000 := rfl
  have ofYear := digits_padded 4 (n := year.toNat) (by omega) (by decide)
  have ofMonth := digits_padded 2 (n := month) (by omega) (by decide)
  have ofDay := digits_padded 2 (n := day) (by omega) (by decide)
  have ofHour := digits_padded 2 (n := h) (by omega) (by decide)
  have clock := parseClock_padded hour minute second (show n / 1000 < 1000000 by omega)
  have plain : yearText year = padded 4 year.toNat := by
    rw [yearText, if_neg (by omega), if_pos (by omega)]
  have written : (Date.text ⟨year, month, day⟩ ++ " " ++
      DateTime.clockText ⟨⟨year, month, day⟩, h, m, s, n⟩ ++ "." ++ padded 6 (n / 1000)).toList =
      (padded 4 year.toNat).toList ++ '-' :: ((padded 2 month).toList ++ '-' ::
        ((padded 2 day).toList ++ ' ' :: ((padded 2 h).toList ++ ':' :: ((padded 2 m).toList ++
          ':' :: ((padded 2 s).toList ++ '.' :: (padded 6 (n / 1000)).toList))))) := by
    simp [Date.text, DateTime.clockText, plain]
  have finite := ofYear.ne_word (by decide) "infinity" written (by decide)
  have finite' := ofYear.ne_word (by decide) "-infinity" written (by decide)
  rw [Timestamp.parse, if_neg finite, if_neg finite', written]
  generalize ((padded 2 m).toList ++ ':' :: ((padded 2 s).toList ++ '.' :: (padded 6 (n / 1000)).toList))
    = rest at clock ⊢
  have noEra := ofHour.no_era (by decide) (':' :: rest)
  have someDay := ofDay.ne_nil (by decide)
  simp only [ofYear.digitsUpTo_eq (by decide) '-' rfl,
    ofMonth.digitsUpTo_eq (by decide) '-' rfl, takeDigits_append ofDay.digits ofDay.length,
    noEra, ofDay.value, clock, valid, Option.bind_eq_bind, Option.bind_some, List.isEmpty_iff, someDay,
    Int.toNat_of_nonneg (show 0 ≤ year by omega), if_false, Bool.false_eq_true, decide_true,
    Bool.true_or, Bool.not_true, if_true]

theorem parse_toMicrosText (r : Reading) :
    Timestamp.parse r.toInstant.toMicrosText = some (.ofReading r) := by
  have fields := r.toDateTime_eq
  have written : r.toInstant.toMicrosText =
      r.toInstant.toDateTime.date.text ++ " " ++ r.toInstant.toDateTime.clockText ++ "." ++
        padded 6 (r.toInstant.toDateTime.nanos / 1000) := rfl
  obtain ⟨low, high⟩ := r.inYears
  rw [written, fields, parse_padded (ofDays_isValid _) (year_ofDays (by omega) (by omega)), toDays_ofDays]
  · simp only [Timestamp.ofReading, Option.some.injEq, Timestamp.finite.injEq]
    omega
  all_goals
    simp only
    omega

/-- An instant is a whole number of microseconds in the years 1 to 9999, and not in a leap second. -/
structure Instant.IsStorable (t : Instant) : Prop where
  noLeap : t.nanos < 1000000000
  micros : t.nanos % 1000 = 0
  years : 1 ≤ t.toDateTime.date.year ∧ t.toDateTime.date.year ≤ 9999

theorem Instant.isStorable_iff {t : Instant} : t.IsStorable ↔ ∃ r : Reading, r.toInstant = t := by
  constructor
  · rintro ⟨noLeap, micros, years⟩
    obtain ⟨seconds, nanos⟩ := t
    have days : -719162 ≤ seconds / 86400 ∧ seconds / 86400 ≤ 2932896 := days_of_year years.1 years.2
    simp only at noLeap micros
    refine ⟨⟨seconds * 1000000 + (nanos / 1000 : Nat), by omega⟩, ?_⟩
    rw [Reading.toInstant, Instant.mk.injEq]
    simp only
    omega
  · rintro ⟨r, rfl⟩
    obtain ⟨low, high⟩ := r.inYears
    have small : (r.micros % 1000000).toNat < 1000000 := by omega
    refine ⟨?_, ?_, ?_⟩
    · simp only [Reading.toInstant]
      omega
    · simp only [Reading.toInstant]
      omega
    · rw [r.toDateTime_eq]
      exact year_ofDays (by omega) (by omega)

theorem notLater_ofReading {a b : Reading} :
    (Timestamp.ofReading a).notLater (.ofReading b) = true ↔ a.micros ≤ b.micros := by
  simp only [Timestamp.ofReading, Timestamp.notLater, decide_eq_true_eq]

end SchemaMigration.Time

namespace SchemaMigration

open World

variable {w w' : World} {t : Tracker} {id : MigrationId}

theorem World.applied_of_call {name : TableName} {statement : Change} {affected : Nat}
    (ends : w.run (Engine.call (.change name statement)) = (.ok affected, w')) :
    ∃ table changed, w.database.Stores name table ∧
      statement.apply table = .ok (changed, affected) ∧ w'.database.Stores name changed := by
  have answered : w.database.change name statement = (.ok affected, w'.database) :=
    answer_of_call (c := .change name statement) ends
  obtain ⟨e, failed⟩ | ⟨table, changed, n, stores, applied, done⟩ :=
    w.database.change_cases name statement
  · rw [failed] at answered
    cases answered
  · rw [done] at answered
    obtain ⟨same, kept⟩ := Prod.mk.inj answered
    obtain rfl := Except.ok.inj same
    exact ⟨table, changed, stores, applied, kept ▸ stores.replaced changed⟩

theorem Tracker.applied_of_guarded {operation : Transition} {statement : Time.Reading → Change}
    (ends : w.run (t.guarded id operation statement) = (.ok (), w')) :
    ∃ table changed n, w.database.Stores t.table table ∧
      (statement (w.clock w.readings)).apply table = .ok (changed, n + 1) ∧
      w'.database.Stores t.table changed := by
  obtain ⟨now, w₁, reads, rest⟩ := bind_ok_inv ends
  rw [run_now] at reads
  obtain ⟨shown, rfl⟩ := Prod.mk.inj reads
  obtain rfl := Except.ok.inj shown
  obtain ⟨affected, w₂, changes, checked⟩ := bind_ok_inv rest
  obtain ⟨table, changed, stores, applied, stored⟩ := applied_of_call changes
  cases affected with
  | zero =>
      obtain ⟨state, w₃, -, refused⟩ := bind_ok_inv checked
      cases refused
  | succ n =>
      obtain ⟨-, rfl⟩ := Prod.mk.inj checked
      exact ⟨table, changed, n, stores, applied, stored⟩

theorem Tracker.applied_of_begin (ends : w.run (t.begin id) = (.ok (), w')) :
    ∃ table changed affected, w.database.Stores t.table table ∧
      table.rows.find? (·.hasId id.text) = none ∧
      (Change.insertStarted id.text (w.clock w.readings)).apply table = .ok (changed, affected) ∧
      w'.database.Stores t.table changed := by
  obtain ⟨record, w₁, looked, rest⟩ := bind_ok_inv ends
  cases record with
  | some record => cases rest
  | none =>
      obtain ⟨table, stored⟩ := stored_of_select looked
      have absent := absent_of_get? looked
      -- Looking up leaves the table and the clock as they were.
      obtain ⟨kept, same⟩ : w₁.database.Stores t.table table ∧
          w₁.clock w₁.readings = w.clock w.readings := by
        cases get?_attempts stored id.text with
        | struck e w₂ n fs struck =>
            rw [struck] at looked
            cases looked
        | answered w₂ answered stores leads =>
            rw [answered] at looked
            obtain ⟨-, rfl⟩ := Prod.mk.inj looked
            exact ⟨stores, by rw [leads.clock, leads.readings, Nat.add_zero]⟩
      obtain ⟨now, w₂, reads, writes⟩ := bind_ok_inv rest
      rw [run_now] at reads
      obtain ⟨shown, rfl⟩ := Prod.mk.inj reads
      obtain rfl := Except.ok.inj shown
      rw [same, run_discard] at writes
      rcases called : World.run _ (Engine.call (.change t.table (.insertStarted id.text
        (w.clock w.readings)))) with ⟨e | affected, w₂⟩
      · rw [called] at writes
        cases writes
      · rw [called] at writes
        obtain ⟨-, rfl⟩ := Prod.mk.inj writes
        obtain ⟨table', changed, stores, applied, stored'⟩ := applied_of_call called
        obtain rfl : table = table' := kept.unique stores
        rw [kept.trackingRows_eq] at absent
        exact ⟨table, changed, affected, stored, by simpa using absent, applied, stored'⟩

/-- The times that a row has after a move: when its last attempt was begun, and when it ended. A move
    that begins an attempt writes that time; one that ends it leaves alone the start written before. -/
inductive Move.Times (now : Time.Reading) (old : TrackingRow) :
    Move → (start : Time.Reading) → (finish : Option Time.Reading) → Prop
  | begin : Times now old .begin now none
  | retry : Times now old .retry now none
  | complete {start : Time.Reading} (checksum : String) (begun : old.startedAt = some (.ofReading start)) :
      Times now old (.complete checksum) start (some now)
  | fail {start : Time.Reading} (reason : String) (begun : old.startedAt = some (.ofReading start)) :
      Times now old (.fail reason) start (some now)

section
variable (unique : ((w.database.trackingRows t.table).map TrackingRow.id).Nodup)
include unique

theorem Tracker.found_after_guarded {operation : Transition} {statement : Time.Reading → Change}
    {status : String} {f : TrackingRow → TrackingRow}
    (ends : w.run (t.guarded id operation statement) = (.ok (), w'))
    (updates : ∀ table : TrackingTable, (statement (w.clock w.readings)).apply table =
      .ok (table.update (·.isAt id.text status) f))
    (keeps : ∀ row, (f row).id = row.id) :
    ∃ changed, w'.database.Stores t.table changed ∧ changed.rows.find? (·.hasId id.text) =
      some (f (rowOf (w.database.trackingRows t.table) id)) := by
  obtain ⟨table, changed, n, stores, applied, stored⟩ := applied_of_guarded ends
  rw [updates, Except.ok.injEq] at applied
  rw [stores.trackingRows_eq] at unique ⊢
  obtain ⟨row, before, -, after⟩ := found_updated applied (Nat.succ_pos n) unique keeps
  refine ⟨changed, stored, ?_⟩
  rw [after, rowOf, before, Option.getD_some]

/-- After a move that succeeds, the row that is found is the one that the move leads to. -/
theorem Move.found_after {move : Move} (ends : w.run (move.script t id) = (.ok (), w')) :
    ∃ changed, w'.database.Stores t.table changed ∧ changed.rows.find? (·.hasId id.text) =
      some (move.row (.ofReading (w.clock w.readings)) (rowOf (w.database.trackingRows t.table) id)) := by
  cases move with
  | begin =>
      obtain ⟨table, changed, affected, stores, absent, applied, stored⟩ := Tracker.applied_of_begin ends
      rw [Change.insertStarted_absent absent, Except.ok.injEq, Prod.mk.injEq] at applied
      obtain ⟨rfl, -⟩ := applied
      refine ⟨_, stored, ?_⟩
      rw [stores.trackingRows_eq, rowOf_absent absent, List.find?_append, absent, Option.none_or]
      exact List.find?_cons_of_pos (TrackingRow.hasId_iff.mpr rfl)
  | complete checksum => exact Tracker.found_after_guarded unique ends (fun _ => rfl) fun _ => rfl
  | fail reason => exact Tracker.found_after_guarded unique ends (fun _ => rfl) fun _ => rfl
  | retry => exact Tracker.found_after_guarded unique ends (fun _ => rfl) fun _ => rfl

end

theorem Move.Times.decode_row {now start : Time.Reading} {finish : Option Time.Reading}
    {old : TrackingRow} {move : Move} (h : move.Times now old start finish)
    (own : old.id = some id.text) :
    (move.row (.ofReading now) old).startedAt = some (.ofReading start) ∧
    ∃ record, (move.row (.ofReading now) old).decode = .ok record ∧ record.id = id ∧
      record.startedAt = start.toInstant ∧
      record.finishedAt = finish.map Time.Reading.toInstant := by
  cases h with
  | begin =>
      exact ⟨rfl, _, TrackingRow.decode_written .inProgress none own rfl rfl rfl,
        rfl, rfl, rfl⟩
  | retry =>
      exact ⟨rfl, _, TrackingRow.decode_written .inProgress none own rfl rfl rfl,
        rfl, rfl, rfl⟩
  | complete checksum begun =>
      exact ⟨begun, _, TrackingRow.decode_written .completed (some now) own rfl
        begun rfl, rfl, rfl, rfl⟩
  | fail reason begun =>
      exact ⟨begun, _, TrackingRow.decode_written .failed (some now) own rfl
        begun rfl, rfl, rfl, rfl⟩

/-- A record that is looked up after a move has the times that were written. -/
theorem Move.Times.reads_back {move : Move} {start : Time.Reading} {finish : Option Time.Reading}
    (unique : ((w.database.trackingRows t.table).map TrackingRow.id).Nodup)
    (ends : w.run (move.script t id) = (.ok (), w'))
    (h : move.Times (w.clock w.readings) (rowOf (w.database.trackingRows t.table) id) start finish) :
    (rowOf (w'.database.trackingRows t.table) id).startedAt = some (.ofReading start) ∧
    ∃ record, w'.ComesTo (t.get? id.text) (some record) ∧ record.id = id ∧
      record.startedAt = start.toInstant ∧
      record.finishedAt = finish.map Time.Reading.toInstant := by
  obtain ⟨changed, stored, found⟩ := Move.found_after unique ends
  obtain ⟨started, record, decoded, own, times⟩ := h.decode_row (rowOf_id _ id)
  refine ⟨?_, record, ?_, own, times⟩
  · rw [stored.trackingRows_eq, rowOf, found, Option.getD_some, started]
  · have looked : Tracker.lookUp changed.rows id.text = .ok (some record) := by
      rw [Tracker.lookUp, found, Option.mapM_some, Tracker.decodeRow, decoded]
      rfl
    have reads := Tracker.get?_attempts stored id.text
    rw [looked] at reads
    exact reads.comesTo

/-- Times are read back as they were written. A text that is made for an instant is one that the database
    reads, and what it writes for that is read as the instant; so what comes back is in the order in
    which it was written, and the stored times are in that order as well. A record that is looked up
    after a move has the times that the clock showed (`Move.Times`), whatever else is in the table. -/
theorem times_read_back :
    (∀ a : Time.Instant, a.IsStorable → ∃ stored, Timestamp.parse a.toMicrosText = some stored ∧
      Time.Instant.parse stored.text = .ok a) ∧
    (∀ a b : Time.Instant, a.IsStorable → b.IsStorable →
      ∀ stored stored', Timestamp.parse a.toMicrosText = some stored →
        Timestamp.parse b.toMicrosText = some stored' →
        (stored.notLater stored' = true ↔ a ≤ b) ∧
        ∀ a' b', Time.Instant.parse stored.text = .ok a' → Time.Instant.parse stored'.text = .ok b' →
          (a' ≤ b' ↔ a ≤ b)) ∧
    ∀ (t : Tracker) (id : MigrationId) (move : Move) (w w' : World),
      ((w.database.trackingRows t.table).map TrackingRow.id).Nodup →
      w.run (move.script t id) = (.ok (), w') →
      ∀ start finish,
        move.Times (w.clock w.readings) (rowOf (w.database.trackingRows t.table) id) start finish →
        (rowOf (w'.database.trackingRows t.table) id).startedAt = some (.ofReading start) ∧
        ∃ record, w'.ComesTo (t.get? id.text) (some record) ∧ record.id = id ∧
          record.startedAt = start.toInstant ∧
          record.finishedAt = finish.map Time.Reading.toInstant := by
  refine ⟨fun a storable => ?_, fun a b first second stored stored' => ?_,
    fun t id move w w' unique ends start finish times => times.reads_back unique ends⟩
  · obtain ⟨r, rfl⟩ := Time.Instant.isStorable_iff.mp storable
    exact ⟨_, Time.parse_toMicrosText r, Time.parse_text_ofReading r⟩
  · obtain ⟨r, rfl⟩ := Time.Instant.isStorable_iff.mp first
    obtain ⟨r', rfl⟩ := Time.Instant.isStorable_iff.mp second
    intro reads reads'
    rw [Time.parse_toMicrosText, Option.some.injEq] at reads reads'
    subst reads reads'
    refine ⟨?_, fun a' b' back back' => ?_⟩
    · rw [Time.notLater_ofReading, Time.Reading.toInstant_le_iff]
    · rw [Time.parse_text_ofReading, Except.ok.injEq] at back back'
      rw [back, back']

/-- A migration that was begun in the first second of 1970 is completed half a second after it. -/
theorem times_read_back_completed :
    let id : MigrationId := ⟨"001", by decide⟩
    let t : Tracker := ⟨.standard⟩
    let begun : TrackingRow := ⟨some "001", some "in_progress", some (.finite 1), none, none, none⟩
    let db : Database := .holding ⟨true, [begun]⟩
    let w := World.start db fun _ => .ofMicros 1500000
    let before : Time.Instant := ⟨0, 1000⟩
    let finish : Time.Instant := ⟨1, 500000000⟩
    (before.IsStorable ∧ finish.IsStorable) ∧ (before ≤ finish) ∧
    (∃ stored, Timestamp.parse "1970-01-01 00:00:01.500000" = some stored ∧
      Time.Instant.parse stored.text = .ok finish) ∧
    (∃ stored stored', Timestamp.parse before.toMicrosText = some stored ∧
      Timestamp.parse finish.toMicrosText = some stored' ∧ stored.notLater stored' = true) ∧
    (w.run (t.complete id "c1")).1 = .ok () ∧
    ∃ record, (w.run (t.complete id "c1")).2.ComesTo (t.get? "001") (some record) ∧
      record.startedAt = before ∧ record.finishedAt = some finish := by
  intro id t begun db w before finish
  have storable : before.IsStorable ∧ finish.IsStorable :=
    ⟨⟨by decide, by decide, by decide⟩, ⟨by decide, by decide, by decide⟩⟩
  have inOrder : before ≤ finish := .inl (by decide)
  have written : finish.toMicrosText = "1970-01-01 00:00:01.500000" := by decide
  obtain ⟨back, order, records⟩ := times_read_back
  obtain ⟨stored, reads, -⟩ := back before storable.1
  obtain ⟨stored', reads', back'⟩ := back finish storable.2
  have later := (order before finish storable.1 storable.2 stored stored' reads reads').1.mpr inOrder
  have stored₀ : w.database.Stores t.table ⟨true, [begun]⟩ := .holding _
  have completes : w.Attempts t.table ⟨true, [begun]⟩
      (t.guarded id .complete fun now => .complete id.text now "c1") (.ok ()) _ 1 _ :=
    Tracker.guarded_attempts stored₀ .complete rfl
  have ends : (w.run (t.complete id "c1")).1 = .ok () := (completes.ends rfl).1
  have row : rowOf (w.database.trackingRows t.table) id = begun := by
    rw [stored₀.trackingRows_eq]
    decide
  obtain ⟨-, record, looked, -, started, finished⟩ := records t id (.complete "c1") w _ (by decide)
    (Prod.ext ends rfl) ⟨1, by decide⟩ (some (.ofMicros 1500000)) (.complete "c1" (by rw [row]; rfl))
  exact ⟨storable, inOrder, ⟨stored', written ▸ reads', back'⟩, ⟨stored, stored', reads, reads', later⟩,
    ends, record, looked, started.trans (by decide), finished.trans (by decide)⟩

end SchemaMigration
