import SchemaMigration.Proofs.Chronicle
import SchemaMigration.Proofs.Diagram

/-! # Coherent records

Whatever operations of the tracker follow one another, and whichever of their calls fail: the rows of the
table have different ids, and each of them is a record whose parts go together (`IsCoherent`). Nothing
checks this; it holds because every statement sets and clears the right columns.
-/

namespace SchemaMigration

open World

namespace Time

instance : LE Instant :=
  ⟨fun a b => a.seconds < b.seconds ∨ a.seconds = b.seconds ∧ a.nanos ≤ b.nanos⟩

theorem Reading.toInstant_le_iff {a b : Reading} : a.toInstant ≤ b.toInstant ↔ a.micros ≤ b.micros := by
  change (a.micros / 1000000 < b.micros / 1000000 ∨ a.micros / 1000000 = b.micros / 1000000 ∧
    (a.micros % 1000000).toNat * 1000 ≤ (b.micros % 1000000).toNat * 1000) ↔ _
  omega

end Time

theorem World.nextReadings_pairwise {R : Time.Reading → Time.Reading → Prop} {w : World}
    (later : ∀ i j, i < j → R (w.clock i) (w.clock j)) (n : Nat) :
    (w.nextReadings n).Pairwise R := by
  rw [nextReadings, List.pairwise_map]
  exact (List.pairwise_lt_range' 1).imp fun before => later _ _ before

/-- The parts of a record go together. -/
structure MigrationRecord.IsCoherent (r : MigrationRecord) : Prop where
  finished : r.finishedAt.isSome ↔ r.status = .completed ∨ r.status = .failed
  inOrder : ∀ finish ∈ r.finishedAt, r.startedAt ≤ finish
  reason : r.failureReason.isSome ↔ r.status = .failed
  checksum : r.checksum.isSome → r.status = .completed

theorem Stage.isCoherent_record (id : MigrationId) {s : Stage}
    (inOrder : ∀ finish ∈ s.finish?, s.start.micros ≤ finish.micros) :
    (s.record id).IsCoherent := by
  constructor
  · cases s <;> simp [record, finish?, status]
  · intro finish ends
    obtain ⟨reading, last, rfl⟩ := Option.map_eq_some_iff.mp ends
    exact Time.Reading.toInstant_le_iff.mpr (inOrder reading last)
  · cases s <;> simp [record, reason?, status]
  · cases s <;> simp [record, checksum?, status]

/-- What is told about a row is a coherent record when the times that were written never decrease. -/
theorem Told.isCoherent_record {t : Tracker} {es : List Event} {id : MigrationId} {s : Stage}
    (h : Told t es id s) (ascending : (writeTimes t es).Pairwise (·.micros ≤ ·.micros)) :
    (s.record id).IsCoherent := by
  apply Stage.isCoherent_record
  intro finish ends
  rcases h.inOrder finish ends with rfl | order
  · exact Int.le_refl _
  · have both := ascending.sublist order
    simpa using both

theorem Query.mem_of_run {query : Query} {table : TrackingTable} {row : TrackingRow}
    (h : row ∈ query.run table) : row ∈ table.rows := by
  cases query with
  | byId id => exact (List.mem_filter.mp h).1
  | all => exact List.mem_mergeSort.mp h
  | completedByRecency => exact (List.mem_filter.mp (List.mem_mergeSort.mp h)).1

theorem not_corrupt_of_select {t : Tracker} {w : World} {α : Type} (query : Query)
    (f : List TrackingRow → Except EngineError α)
    (succeeds : ∀ rows, (∀ row ∈ rows, row ∈ w.database.trackingRows t.table) →
      ∃ a, f rows = .ok a) (id detail : String) :
    (w.run (Engine.call (.select t.table query) >>= fun rows => Engine.ofExcept (f rows))).1 ≠
      .error (.corruptRecord id detail) := by
  have runs := w.run_bind (Engine.call (.select t.table query)) fun rows => Engine.ofExcept (f rows)
  rw [run_call] at runs
  rw [runs]
  obtain ⟨e, w', called, -⟩ | ⟨w', called, -⟩ := w.call_cases (.select t.table query) <;> rw [called]
  · intro corrupt
    cases corrupt
  · cases selected : w.database.select t.table query with
    | error e =>
        rw [Database.answer, selected]
        intro corrupt
        cases corrupt
    | ok rows =>
        obtain ⟨table, stored, rfl⟩ := Database.stores_of_select selected
        obtain ⟨a, made⟩ := succeeds (query.run table) fun row inside => by
          rw [stored.trackingRows_eq]
          exact Query.mem_of_run inside
        rw [Database.answer, selected]
        change (w'.run (Engine.ofExcept (f (query.run table)))).1 ≠ _
        rw [run_ofExcept, made]
        intro corrupt
        cases corrupt

theorem Legible.never_corrupt {t : Tracker} {w : World}
    (h : Legible (w.database.trackingRows t.table)) (id detail : String) :
    (∀ asked, (w.run (t.get? asked)).1 ≠ .error (.corruptRecord id detail)) ∧
      (w.run t.list).1 ≠ .error (.corruptRecord id detail) ∧
      (w.run t.completedByRecency).1 ≠ .error (.corruptRecord id detail) := by
  have all (rows : List TrackingRow) (known : ∀ row ∈ rows, row ∈ w.database.trackingRows t.table) :
      ∃ records, rows.mapM Tracker.decodeRow = .ok records :=
    Tracker.decoded_of_decodes fun row inside => h.decodes row (known row inside)
  refine ⟨fun asked => ?_, not_corrupt_of_select .all _ all id detail,
    not_corrupt_of_select .completedByRecency _ all id detail⟩
  refine not_corrupt_of_select (.byId asked) _ (fun rows known => ?_) id detail
  cases rows with
  | nil => exact ⟨none, rfl⟩
  | cons row rest =>
      obtain ⟨r, decoded⟩ := h.decodes row (known row List.mem_cons_self)
      exact ⟨some r, by simp [Tracker.decodeRow, decoded, Except.mapError, Functor.map, Except.map]⟩

/-- An operation of the tracker that can change the table, with its arguments. -/
inductive TrackerOperation where
  | ensure
  | move (id : MigrationId) (step : Move)
  | forceComplete (id : MigrationId) (checksum : Option String)
  | remove (id : MigrationId)
  | reset

namespace TrackerOperation

/-- What an operation does, apart from what it answers. -/
def script (t : Tracker) : TrackerOperation → Engine Unit
  | ensure => t.ensure
  | move id step => step.script t id
  | forceComplete id checksum => discard (t.forceComplete id checksum)
  | remove id => discard (t.remove id)
  | reset => t.reset

theorem keeps_chronicle (t : Tracker) (start : World) (operation : TrackerOperation) :
    Keeps (Chronicle t start) (operation.script t) := by
  cases operation with
  | ensure => exact Chronicle.keeps_idle (admitsMaking_idle t).ensure
  | move id step =>
      cases step with
      | begin => exact Chronicle.begin id
      | complete checksum =>
          exact Chronicle.guarded id .complete (fun _ => rfl) (fun _ => rfl) fun _ => rfl
      | fail reason =>
          exact Chronicle.guarded id .fail (fun _ => rfl) (fun _ => rfl) fun _ => rfl
      | retry => exact Chronicle.guarded id .retry (fun _ => rfl) (fun _ => rfl) fun _ => rfl
  | forceComplete id checksum => exact (Chronicle.forceComplete id checksum).map _
  | remove id => exact Chronicle.remove id
  | reset => exact (partsKeep_chronicle t start).reset

end TrackerOperation

def World.tracked (t : Tracker) : List TrackerOperation → World → World
  | [], w => w
  | operation :: rest, w => World.tracked t rest (w.run (operation.script t)).2

theorem Chronicle.tracked {t : Tracker} {start w : World} (h : Chronicle t start w)
    (operations : List TrackerOperation) : Chronicle t start (w.tracked t operations) := by
  induction operations generalizing w with
  | nil => exact h
  | cons operation rest ih => exact ih (operation.keeps_chronicle t start w h)

/-- After any operations of the tracker, begun where nothing is tracked yet, with any calls failing on
    the way and a clock that never goes back: ids are unique, every row is a coherent record
    (`IsCoherent`), and the table is never found to be corrupt. -/
theorem records_coherent (t : Tracker) (operations : List TrackerOperation) (w : World)
    (start : w.database.Untracked t.table)
    (clock : ∀ i j, i ≤ j → (w.clock i).micros ≤ (w.clock j).micros) :
    let w' := w.tracked t operations
    let rows := w'.database.trackingRows t.table
    (rows.map TrackingRow.id).Nodup ∧
    (∀ row ∈ rows, ∃ r, row.decode = .ok r ∧ r.IsCoherent) ∧
    ∀ id detail,
      (∀ asked, (w'.run (t.get? asked)).1 ≠ .error (.corruptRecord id detail)) ∧
      (w'.run t.list).1 ≠ .error (.corruptRecord id detail) ∧
      (w'.run t.completedByRecency).1 ≠ .error (.corruptRecord id detail) := by
  intro w' rows
  have chronicle : Chronicle t w w' := (Chronicle.begins start).tracked operations
  obtain ⟨n, es, -, times, staged⟩ := chronicle.told
  have ascending : (writeTimes t es).Pairwise (·.micros ≤ ·.micros) :=
    (World.nextReadings_pairwise (fun i j before => clock i j (Nat.le_of_lt before)) n).sublist times
  refine ⟨chronicle.unique, fun row inside => ?_,
    (staged.legible chronicle.unique).never_corrupt⟩
  obtain ⟨id, s, rfl, told⟩ := staged row inside
  exact ⟨_, s.decode_row id, told.isCoherent_record ascending⟩

/-- A migration fails, is tried again and completed, and removing it is struck; another one is marked.
    The clock shows every time twice. -/
theorem records_coherent_retried :
    let first : MigrationId := ⟨"001", by decide⟩
    let second : MigrationId := ⟨"002", by decide⟩
    let t : Tracker := ⟨.standard⟩
    let operations : List TrackerOperation :=
      [.ensure, .move first .begin, .move first (.fail "no space"), .move first .retry,
        .move first (.complete "c1"), .remove first, .forceComplete second none]
    let w : World :=
      { World.start .empty fun n => .ofMicros (1000000 * (n / 2)) with
        faults := [⟨.executeWithParams, 5, .execution "disk full"⟩] }
    let rows := (w.tracked t operations).database.trackingRows t.table
    (w.database.Untracked t.table ∧ ∀ i j, i ≤ j → (w.clock i).micros ≤ (w.clock j).micros) ∧
    (rows.map TrackingRow.id).Nodup ∧ ∀ row ∈ rows, ∃ r, row.decode = .ok r ∧ r.IsCoherent := by
  intro first second t operations w rows
  have start : w.database.Untracked t.table := .inl rfl
  have clock (i j : Nat) (before : i ≤ j) : (w.clock i).micros ≤ (w.clock j).micros := by
    simp only [w, World.start, Time.Reading.ofMicros]
    omega
  obtain ⟨unique, coherent, -⟩ := records_coherent t operations w start clock
  exact ⟨⟨start, clock⟩, unique, coherent⟩

end SchemaMigration
