import SchemaMigration.Proofs.Views

/-! # Migrations that have changed

A completed migration has changed when the checksum recorded for it is not the current one. The check of
the checksums, the status and the report of a run find the same migrations, in the order of their ids,
and a strict run stops at the first of them.
-/

namespace SchemaMigration

open World

variable {migrations : List Migration} {records : List MigrationRecord} {rows : List TrackingRow}

theorem drift?_eq_some (ascend : RecordsAscend records) {m : Migration} {d : ChecksumMismatch} :
    drift? records m = some d ↔ ∃ record ∈ records, record.id = m.id ∧ record.status = .completed ∧
      record.checksum = some d.recorded ∧ d.recorded ≠ m.checksum ∧ d.id = m.id ∧
      d.current = m.checksum := by
  rw [drift?_found]
  constructor
  · rintro ⟨record, found, completed, c, checksum, different, rfl⟩
    obtain ⟨known, own⟩ := ascend.recordOf?_eq_some.mp found
    exact ⟨record, known, own, completed, checksum, different, rfl, rfl⟩
  · obtain ⟨id, recorded, current⟩ := d
    rintro ⟨record, known, own, completed, checksum, different, rfl, rfl⟩
    have found := ascend.recordOf?_eq_some.mpr ⟨known, own⟩
    exact ⟨record, found, completed, recorded, checksum, different, rfl⟩

theorem mem_mismatches (ascend : RecordsAscend records) (recorded : Recorded rows records)
    {d : ChecksumMismatch} :
    d ∈ migrations.filterMap (drift? records) ↔ ∃ m ∈ migrations, ∃ row ∈ rows,
      row.id = some m.id.text ∧ row.status = some completedStatus ∧
      row.checksum = some d.recorded ∧ d.recorded ≠ m.checksum ∧ d.id = m.id ∧
      d.current = m.checksum := by
  rw [List.mem_filterMap]
  refine exists_congr fun m => and_congr_right fun _ => ?_
  rw [drift?_eq_some ascend]
  constructor
  · rintro ⟨record, known, own, completed, checksum, rest⟩
    obtain ⟨row, inside, holds⟩ := recorded.of_record record known
    refine ⟨row, inside, own ▸ holds.id, ?_, holds.checksum.trans checksum, rest⟩
    rw [holds.status, completed]
    rfl
  · rintro ⟨row, inside, own, completed, checksum, rest⟩
    obtain ⟨record, known, holds⟩ := recorded.of_row row inside
    refine ⟨record, known, ?_, ?_, holds.checksum.symm.trans checksum, rest⟩
    · exact MigrationId.some_text_injective (holds.id.symm.trans own)
    · have shown := (holds.status_iff .completed).mp completed
      rw [holds.state_eq, MigrationRecord.state] at shown
      cases same : record.status <;> rw [same] at shown <;> first | rfl | cases shown

theorem mismatches_ascend (ascend : RecordsAscend records) (ascending : Ascending migrations) :
    ((migrations.filterMap (drift? records)).map ChecksumMismatch.id).Pairwise (· < ·) := by
  rw [List.pairwise_map, List.pairwise_filterMap]
  apply ascending.imp
  intro m m' before d drifts d' drifts'
  obtain ⟨-, -, -, -, -, -, own, -⟩ := (drift?_eq_some ascend).mp drifts
  obtain ⟨-, -, -, -, -, -, own', -⟩ := (drift?_eq_some ascend).mp drifts'
  rwa [own, own']

theorem drifted_entries (ascend : RecordsAscend records) (migrations : List Migration) :
    ((statusOn migrations records).entries.filter (·.drifted)).map StatusEntry.id =
      (migrations.filterMap (drift? records)).map ChecksumMismatch.id := by
  induction migrations with
  | nil => rfl
  | cons m rest ih =>
      have flag : (StatusEntry.ofMigration records m).drifted = (drift? records m).isSome := rfl
      simp only [List.map_cons, List.filter_cons, List.filterMap_cons, flag]
      cases drifts : drift? records m with
      | none => exact ih
      | some d =>
          obtain ⟨-, -, -, -, -, -, own, -⟩ := (drift?_eq_some ascend).mp drifts
          simp only [Option.isSome_some, if_true, List.map_cons, own]
          exact congrArg (m.id :: ·) ih

/-- Past the other checks, a strict run is refused for the first mismatch, and for nothing else. -/
theorem Runner.objection?_strict {o : RunOptions} (strict : o.strictChecksums = true)
    (clean : o.force = true ∨ ∀ r ∈ records, r.state.isDirty = false)
    (target : ∀ id, o.target = .upTo id → id ∈ idsOf migrations) :
    objection? o migrations records =
      (migrations.filterMap (drift? records)).head?.map fun d =>
        .checksumMismatch d.id d.recorded d.current := by
  have aimed : targetObjection? migrations o.target = none := by
    cases asked : o.target with
    | all | steps n => rfl
    | upTo id =>
        obtain ⟨m, inside, own⟩ := List.mem_map.mp (target id asked)
        rw [targetObjection?, if_pos (List.any_eq_true.mpr ⟨m, inside, decide_eq_true own⟩)]
  rw [objection?, dirtyObjection?_eq_none.mpr clean, Option.none_or, aimed, Option.none_or,
    driftObjection?, if_pos strict, List.head?_filterMap]

/-- The mismatches are the migrations that are recorded as completed with a checksum that is not theirs
    now, each with both checksums, in ascending order. -/
structure TellsDrift (mismatches : List ChecksumMismatch) (migrations : List Migration)
    (rows : List TrackingRow) : Prop where
  told : ∀ d, d ∈ mismatches ↔ ∃ m ∈ migrations, ∃ row ∈ rows,
    row.id = some m.id.text ∧ row.status = some completedStatus ∧ row.checksum = some d.recorded ∧
    d.recorded ≠ m.checksum ∧ d.id = m.id ∧ d.current = m.checksum
  ascend : (mismatches.map ChecksumMismatch.id).Pairwise (· < ·)

/-- The options of a strict run that gets past its other checks. -/
structure RunOptions.OnlyStrict (o : RunOptions) (migrations : List Migration)
    (rows : List TrackingRow) : Prop where
  strict : o.strictChecksums = true
  clean : o.force = true ∨ ∀ row ∈ rows, row.state.isDirty = false
  target : ∀ id, o.target = .upTo id → id ∈ idsOf migrations

/-- A run is refused for mismatches, as `validate` lists them, exactly when there are any, and then for
    the first of them. -/
structure RefusedForDrift (name : TableName) (mismatches : List ChecksumMismatch) (w : World)
    (ran : Except EngineError RunReport × World) : Prop where
  refused : (∃ id recorded current, ran.1 = .error (.checksumMismatch id recorded current)) ↔
    mismatches ≠ []
  first : ∀ d, mismatches.head? = some d →
    ran.1 = .error (.checksumMismatch d.id d.recorded d.current) ∧ w.Idles name ran.2

/-- On a workable table and with no failing call, all views agree on what has changed: the check of the
    checksums, the status and a run that is not strict tell the same migrations (`TellsDrift`), in
    ascending order. A strict run that gets past its other checks is refused exactly when there are any,
    for the first of them; then nothing is executed and no row changes. -/
theorem drift_views_agree (r : Runner) (w : World) (migrations : List Migration)
    (listed : r.source.list = .ok migrations) (workable : Workable r.tracker w.database)
    (alone : r.source.LeavesAlone r.tracker.table) (calm : w.faults = []) :
    let rows := w.database.trackingRows r.tracker.table
    ∃ mismatches report, (w.run r.validate).1 = .ok mismatches ∧ (w.run r.status).1 = .ok report ∧
      TellsDrift mismatches migrations rows ∧
      (report.entries.filter (·.drifted)).map StatusEntry.id = mismatches.map ChecksumMismatch.id ∧
      ∀ o : RunOptions,
        (o.strictChecksums = false → ∀ done, (w.run (r.run o)).1 = .ok done →
          done.drifted = mismatches.map ChecksumMismatch.id) ∧
        (o.OnlyStrict migrations rows →
          RefusedForDrift r.tracker.table mismatches w (w.run (r.run o))) := by
  intro rows
  obtain ⟨records, known, decoded⟩ := workable.known
  have ascend := workable.legible.records_ascend decoded
  have recorded := Tracker.recorded_of_list decoded
  obtain ⟨es, validates⟩ := Runner.validate_reads listed known calm
  obtain ⟨fs, reports⟩ := Runner.status_reads listed known calm
  refine ⟨_, _, congrArg Prod.fst validates, congrArg Prod.fst reports,
    ⟨fun d => mem_mismatches ascend recorded,
      mismatches_ascend ascend (Source.list_ascending listed)⟩,
    drifted_entries ascend migrations, fun o => ?_⟩
  have makeable := workable.makeable
  refine ⟨fun _ done succeeds =>
    (Runner.run_reports listed known calm makeable alone succeeds).2, fun only => ?_⟩
  have clean : o.force = true ∨ ∀ record ∈ records, record.state.isDirty = false := by
    refine only.clean.imp_right fun clean record inside => ?_
    obtain ⟨row, present, holds⟩ := recorded.of_record record inside
    rw [← holds.state_eq]
    exact clean row present
  have stands := Runner.objection?_strict only.strict clean only.target
  constructor
  · constructor
    · rintro ⟨id, was, now, fails⟩ none_there
      have objects := (Runner.run_refused_iff listed known calm makeable alone
        (fun _ same => by cases same)).mp fails
      rw [stands, none_there] at objects
      cases objects
    · intro some_there
      obtain ⟨d, rest, parts⟩ := List.exists_cons_of_ne_nil some_there
      rw [parts] at stands
      exact ⟨_, _, _, (Runner.run_refused listed known calm makeable alone stands).1⟩
  · intro d first
    rw [first] at stands
    exact Runner.run_refused listed known calm makeable alone stands

open Sample

/-- A migration that was completed with another checksum, and one that has failed. -/
theorem drift_views_agree_edited :
    let done : TrackingRow :=
      (Stage.completed (.ofMicros 0) (.ofMicros 5) (some "c1")).row first.id
    let failed : TrackingRow := (Stage.failed (.ofMicros 6) (.ofMicros 7) "no space").row second.id
    let db : Database := .holding ⟨true, [done, failed]⟩
    let r : Runner := ⟨.registry [first, second], ⟨.standard⟩⟩
    let w := World.ticking db
    let o : RunOptions := { force := true, strictChecksums := true }
    (r.source.list = .ok [first, second] ∧ Workable r.tracker w.database ∧
      r.source.LeavesAlone r.tracker.table ∧ w.faults = []) ∧
    ∃ mismatches, (w.run r.validate).1 = .ok mismatches ∧
      (⟨first.id, "c1", first.checksum⟩ : ChecksumMismatch) ∈ mismatches ∧
      ∃ id recorded current, (w.run (r.run o)).1 = .error (.checksumMismatch id recorded current) := by
  intro done failed db r w o
  have listed : r.source.list = .ok [first, second] := inOrder_of_ascending (by decide)
  have legible : Legible [done, failed] := by
    refine Staged.legible (P := fun _ _ => True) (fun row inside => ?_) (by decide)
    rcases List.mem_pair.mp inside with rfl | rfl <;> exact ⟨_, _, rfl, trivial⟩
  have stored : w.database.Stores r.tracker.table ⟨true, [done, failed]⟩ := Database.Stores.holding _
  have workable : Workable r.tracker w.database := .of_stores stored legible
  have alone : r.source.LeavesAlone r.tracker.table :=
    Source.leavesAlone_silent listed (by decide) r.tracker.table
  have present : done ∈ w.database.trackingRows r.tracker.table := by
    rw [stored.trackingRows_eq]
    exact List.mem_cons_self
  obtain ⟨mismatches, report, validates, -, drift, -, each⟩ :=
    drift_views_agree r w [first, second] listed workable alone rfl
  have edited : "c1" ≠ first.checksum := by
    decide +kernel
  have found : (⟨first.id, "c1", first.checksum⟩ : ChecksumMismatch) ∈ mismatches :=
    (drift.told _).mpr ⟨first, List.mem_cons_self, done, present, rfl, rfl, rfl, edited, rfl, rfl⟩
  exact ⟨⟨listed, workable, alone, rfl⟩, mismatches, validates, found,
    ((each o).2 ⟨rfl, .inl rfl, fun id aimed => by cases aimed⟩).refused.mpr
      (List.ne_nil_of_mem found)⟩

end SchemaMigration
