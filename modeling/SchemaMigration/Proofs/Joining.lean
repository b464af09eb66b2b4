import SchemaMigration.Proofs.Marking
import SchemaMigration.Proofs.Views

/-! # Status reports as joins

A status report joins the source with the table: an entry for every migration of the source, and the
records that are left over. Where ids are unique, what it says can be held against the rows (`Joins`,
`Tallies`). No row is lost, told twice or told under another id, so that no failure can hide from the
report.
-/

namespace SchemaMigration

open World

/-- An entry shows the row of its id: the state, the times and the reason of a failure. Without a row it
    shows that the migration is pending. -/
def StatusEntry.Shows (entry : StatusEntry) (rows : List TrackingRow) : Prop :=
  match rows.find? (·.hasId entry.id.text) with
  | none => entry.state = .pending ∧ entry.startedAt = none ∧ entry.finishedAt = none ∧
      entry.failureReason = none
  | some row => ∃ record, row.decode = .ok record ∧ entry.state = record.state ∧
      entry.startedAt = some record.startedAt ∧ entry.finishedAt = record.finishedAt ∧
      entry.failureReason = record.failureReason

namespace StatusReport

/-- The ids that a report tells of: those of the source, and those of the records beside it. -/
def ids (report : StatusReport) : List MigrationId :=
  report.entries.map StatusEntry.id ++ report.orphaned.map MigrationRecord.id

/-- A report joins the migrations of the source with the rows of a table. -/
structure Joins (report : StatusReport) (migrations : List Migration) (rows : List TrackingRow) :
    Prop where
  /-- One entry for each migration of the source, in ascending order. -/
  entries : report.entries.map StatusEntry.id = idsOf migrations
  ascend : (report.entries.map StatusEntry.id).Pairwise (· < ·)
  shown : ∀ entry ∈ report.entries, entry.Shows rows
  /-- The records beside the source, as they are in their rows, in ascending order. -/
  orphaned : ∀ record, record ∈ report.orphaned ↔
    record.id ∉ idsOf migrations ∧ ∃ row ∈ rows, row.decode = .ok record
  orphansAscend : (report.orphaned.map MigrationRecord.id).Pairwise (· < ·)
  /-- Every row is told of once. -/
  once : ∀ row ∈ rows, (report.ids.map fun id => some id.text).count row.id = 1
  backed : ∀ entry ∈ report.entries, entry.state ≠ .pending →
    ∃ row ∈ rows, row.id = some entry.id.text

/-- The counts of a report are those of the migrations in each state. -/
structure Tallies (report : StatusReport) (migrations : List Migration) (rows : List TrackingRow) :
    Prop where
  total : report.counts.total = report.entries.length
  sum : report.counts.total = report.counts.pending + report.counts.inProgress +
    report.counts.completed + report.counts.failed
  pending : report.counts.pending = (idsOf migrations).countP (stateIn rows · = .pending)
  inProgress : report.counts.inProgress = (idsOf migrations).countP (stateIn rows · = .inProgress)
  completed : report.counts.completed = (idsOf migrations).countP (stateIn rows · = .completed)
  failed : report.counts.failed = (idsOf migrations).countP (stateIn rows · = .failed)

/-- The failures that a report tells of are the rows that are failed or in progress. -/
structure TellsDirty (report : StatusReport) (migrations : List Migration)
    (rows : List TrackingRow) : Prop where
  once : (report.failed.map StatusEntry.id).Nodup
  dirty : ∀ id, id ∈ report.failed.map StatusEntry.id ↔
    ∃ row ∈ rows, row.id = some id.text ∧ row.state.isDirty = true
  shown : ∀ entry ∈ report.failed, entry.Shows rows
  orphaned : ∀ entry ∈ report.failed, (entry.orphaned = true ↔ entry.id ∉ idsOf migrations)

end StatusReport

variable {migrations : List Migration} {rows : List TrackingRow} {records : List MigrationRecord}

theorem mem_records (decoded : (rows.mergeSort TrackingRow.idNotAfter).mapM Tracker.decodeRow =
    .ok records) {record : MigrationRecord} :
    record ∈ records ↔ ∃ row ∈ rows, row.decode = .ok record := by
  obtain ⟨of_record, of_row⟩ := mem_of_mapM_ok decoded
  constructor
  · intro known
    obtain ⟨row, sorted, reads⟩ := of_record record known
    exact ⟨row, List.mem_mergeSort.mp sorted, Tracker.decode_of_decodeRow reads⟩
  · rintro ⟨row, inside, reads⟩
    obtain ⟨other, known, reads'⟩ := of_row row (List.mem_mergeSort.mpr inside)
    rw [Tracker.decode_of_decodeRow reads'] at reads
    exact Except.ok.inj reads ▸ known

/-- A table that is looked at: its rows are legible, and the records are those of its rows. -/
structure Legible.Read (rows : List TrackingRow) (records : List MigrationRecord) : Prop where
  legible : Legible rows
  decoded : (rows.mergeSort TrackingRow.idNotAfter).mapM Tracker.decodeRow = .ok records

namespace Legible.Read

variable (h : Legible.Read rows records)
include h

theorem ascend : RecordsAscend records :=
  h.legible.records_ascend h.decoded

theorem recorded : Recorded rows records :=
  Tracker.recorded_of_list h.decoded

theorem find?_of_record {record : MigrationRecord} (known : record ∈ records) :
    ∃ row, rows.find? (·.hasId record.id.text) = some row ∧ row.decode = .ok record := by
  obtain ⟨row, inside, reads⟩ := (mem_records h.decoded).mp known
  exact ⟨row, h.legible.find?_iff.mpr ⟨inside, (TrackingRow.holds_of_decode reads).id⟩, reads⟩

theorem ofOrphan_shows {record : MigrationRecord} (known : record ∈ records) :
    (StatusEntry.ofOrphan record).Shows rows := by
  obtain ⟨row, found, reads⟩ := h.find?_of_record known
  unfold StatusEntry.Shows
  rw [show rows.find? (·.hasId (StatusEntry.ofOrphan record).id.text) = some row from found]
  exact ⟨record, reads, rfl, rfl, rfl, rfl⟩

theorem ofMigration_shows (m : Migration) : (StatusEntry.ofMigration records m).Shows rows := by
  unfold StatusEntry.Shows
  cases asked : recordOf? records m.id with
  | none =>
      have missing := h.recorded.recordOf?_eq_none.mp asked
      rw [show rows.find? (·.hasId (StatusEntry.ofMigration records m).id.text) = none from missing]
      simp [StatusEntry.ofMigration, asked, MigrationState.ofRecord]
  | some record =>
      obtain ⟨known, own⟩ := h.ascend.recordOf?_eq_some.mp asked
      obtain ⟨row, found, reads⟩ := h.find?_of_record known
      rw [own] at found
      rw [show rows.find? (·.hasId (StatusEntry.ofMigration records m).id.text) = some row from found]
      refine ⟨record, reads, ?_⟩
      simp [StatusEntry.ofMigration, asked, MigrationState.ofRecord]

theorem mem_orphans {record : MigrationRecord} : record ∈ orphans migrations records ↔
    record.id ∉ idsOf migrations ∧ ∃ row ∈ rows, row.decode = .ok record := by
  rw [h.ascend.orphans_eq, List.mem_filter, ← mem_records h.decoded, and_comm, Bool.not_eq_true',
    List.any_eq_false, idsOf, List.mem_map]
  simp only [decide_eq_true_eq, not_exists, not_and]

theorem orphans_ascend (migrations : List Migration) :
    ((orphans migrations records).map MigrationRecord.id).Pairwise (· < ·) := by
  rw [List.pairwise_map, h.ascend.orphans_eq]
  exact h.ascend.filter _

end Legible.Read

theorem entries_ids (migrations : List Migration) (records : List MigrationRecord) :
    (statusOn migrations records).entries.map StatusEntry.id = idsOf migrations :=
  List.map_map

namespace Legible.Read

variable (h : Legible.Read rows records)
include h

theorem ids_distinct (ascending : Ascending migrations) :
    (statusOn migrations records).ids.Nodup := by
  rw [StatusReport.ids, entries_ids, List.nodup_append]
  refine ⟨ascending.distinct, (h.orphans_ascend migrations).imp ?_, ?_⟩
  · intro a b before same
    exact String.lt_irrefl _ (same ▸ before : b < b)
  · rintro id source _ beside rfl
    obtain ⟨record, inside, rfl⟩ := List.mem_map.mp beside
    exact (h.mem_orphans.mp inside).1 source

theorem id_told {row : TrackingRow} (inside : row ∈ rows) :
    row.id ∈ (statusOn migrations records).ids.map fun id => some id.text := by
  obtain ⟨record, reads, holds⟩ := h.legible.holds inside
  rw [holds.id, StatusReport.ids, entries_ids]
  refine List.mem_map_of_mem (f := fun id : MigrationId => some id.text) (List.mem_append.mpr ?_)
  by_cases source : record.id ∈ idsOf migrations
  · exact .inl source
  · exact .inr (List.mem_map_of_mem (h.mem_orphans.mpr ⟨source, row, inside, reads⟩))

theorem joins (ascending : Ascending migrations) :
    (statusOn migrations records).Joins migrations rows where
  entries := entries_ids migrations records
  ascend := by
    rw [entries_ids, idsOf, List.pairwise_map]
    exact ascending
  shown entry inside := by
    obtain ⟨m, -, rfl⟩ := List.mem_map.mp inside
    exact h.ofMigration_shows m
  orphaned _ := h.mem_orphans
  orphansAscend := h.orphans_ascend migrations
  once row inside :=
    List.count_eq_one_of_mem ((h.ids_distinct ascending).map MigrationId.some_text_injective)
      (h.id_told inside)
  backed entry inside begun := by
    obtain ⟨m, -, rfl⟩ := List.mem_map.mp inside
    obtain ⟨record, known, own, -⟩ := (h.ascend.stateOf_iff begun).mp rfl
    obtain ⟨row, present, reads⟩ := (mem_records h.decoded).mp known
    have named := (TrackingRow.holds_of_decode reads).id
    rw [own] at named
    exact ⟨row, present, named⟩

end Legible.Read

theorem StatusReport.counts_sum (report : StatusReport) : report.counts.total =
    report.counts.pending + report.counts.inProgress + report.counts.completed +
      report.counts.failed := by
  have whole := countP_states StatusEntry.state report.entries
  simp only [counts]
  omega

namespace Legible.Read

variable (h : Legible.Read rows records)
include h

theorem tally (migrations : List Migration) (state : MigrationState) :
    (statusOn migrations records).entries.countP (·.state = state) =
      (idsOf migrations).countP (stateIn rows · = state) := by
  rw [idsOf, List.countP_map, List.countP_map]
  apply List.countP_congr
  intro m _
  have same : (StatusEntry.ofMigration records m).state = stateIn rows m.id :=
    h.recorded.stateOf_eq h.legible m.id
  simp only [Function.comp_apply, same]

theorem tallies (migrations : List Migration) :
    (statusOn migrations records).Tallies migrations rows where
  total := rfl
  sum := StatusReport.counts_sum _
  pending := h.tally migrations .pending
  inProgress := h.tally migrations .inProgress
  completed := h.tally migrations .completed
  failed := h.tally migrations .failed

theorem tellsDirty (ascending : Ascending migrations) :
    (statusOn migrations records).TellsDirty migrations rows where
  once := by
    -- What is told of the failures is told of the whole, in the same order.
    refine (h.ids_distinct ascending).sublist ?_
    rw [StatusReport.failed, List.map_append, List.map_map]
    exact (List.filter_sublist.map _).append (List.filter_sublist.map _)
  dirty id := by
    rw [mem_failed_ids h.ascend, List.mem_map]
    constructor
    · rintro ⟨record, inside, rfl⟩
      obtain ⟨known, dirty⟩ := List.mem_filter.mp inside
      obtain ⟨row, present, holds⟩ := h.recorded.of_record record known
      exact ⟨row, present, holds.id, holds.state_eq ▸ dirty⟩
    · rintro ⟨row, present, own, dirty⟩
      obtain ⟨record, known, holds⟩ := h.recorded.of_row row present
      exact ⟨record, List.mem_filter.mpr ⟨known, holds.state_eq ▸ dirty⟩,
        MigrationId.some_text_injective (holds.id.symm.trans own)⟩
  shown entry inside := by
    rcases List.mem_append.mp inside with source | beside
    · obtain ⟨m, -, rfl⟩ := List.mem_map.mp (List.mem_filter.mp source).1
      exact h.ofMigration_shows m
    · obtain ⟨record, dirty, rfl⟩ := List.mem_map.mp beside
      exact h.ofOrphan_shows (h.ascend.mem_dirtyOrphans.mp dirty).1
  orphaned entry inside := by
    rcases List.mem_append.mp inside with source | beside
    · obtain ⟨m, listed, rfl⟩ := List.mem_map.mp (List.mem_filter.mp source).1
      exact iff_of_false Bool.false_ne_true (not_not_intro (List.mem_map_of_mem listed))
    · obtain ⟨record, dirty, rfl⟩ := List.mem_map.mp beside
      exact iff_of_true rfl (h.ascend.mem_dirtyOrphans.mp dirty).2.1

end Legible.Read

/-- On a legible table, or without one, and with no failing call, a status report is a faithful join of
    the source with the table: its entries and its orphans tell of every row once and as it is (`Joins`),
    its counts are those of the migrations in each state (`Tallies`), and its failures are the rows that
    are failed or in progress. -/
theorem status_joins (r : Runner) (w : World) (migrations : List Migration)
    (listed : r.source.list = .ok migrations) (reserved : w.database.Reserved r.tracker.table)
    (legible : Legible (w.database.trackingRows r.tracker.table)) (calm : w.faults = []) :
    ∃ report, (w.run r.status).1 = .ok report ∧
      report.Joins migrations (w.database.trackingRows r.tracker.table) ∧
      report.Tallies migrations (w.database.trackingRows r.tracker.table) ∧
      report.TellsDirty migrations (w.database.trackingRows r.tracker.table) := by
  obtain ⟨records, decoded⟩ := legible.list_ok
  have known : r.tracker.knownIn w.database = .ok records := reserved.knownIn_eq.trans decoded
  have read : Legible.Read (w.database.trackingRows r.tracker.table) records := ⟨legible, decoded⟩
  have ascending : Ascending migrations := Source.list_ascending listed
  obtain ⟨es, reports⟩ := Runner.status_reads listed known calm
  exact ⟨statusOn migrations records, congrArg Prod.fst reports, read.joins ascending,
    read.tallies migrations, read.tellsDirty ascending⟩

open Sample

/-- A completed and a failed migration, one without a row, and a record in progress beside them. -/
theorem status_joins_mixed :
    let lost : MigrationId := ⟨"000", by decide⟩
    let failed : TrackingRow := (Stage.failed (.ofMicros 0) (.ofMicros 5) "no space").row second.id
    let busy : TrackingRow := (Stage.inProgress (.ofMicros 8)).row lost
    let done : TrackingRow :=
      (Stage.completed (.ofMicros 0) (.ofMicros 3) (some first.checksum)).row first.id
    let rows := [failed, busy, done]
    let db : Database := .holding ⟨true, rows⟩
    let r : Runner := ⟨.registry [first, second, third], ⟨.standard⟩⟩
    let w := World.ticking db
    (r.source.list = .ok [first, second, third] ∧ w.database.Reserved r.tracker.table ∧
      Legible (w.database.trackingRows r.tracker.table) ∧ w.faults = []) ∧
    ∃ report, (w.run r.status).1 = .ok report ∧
      report.entries.map StatusEntry.id = [first.id, second.id, third.id] ∧
      report.counts = ⟨3, 1, 0, 1, 1⟩ ∧
      (Stage.inProgress (.ofMicros 8)).record lost ∈ report.orphaned ∧
      second.id ∈ report.failed.map StatusEntry.id ∧ lost ∈ report.failed.map StatusEntry.id := by
  intro lost failed busy done rows db r w
  have listed : r.source.list = .ok [first, second, third] := inOrder_of_ascending (by decide)
  have legible : Legible rows := by
    refine Staged.legible (P := fun _ _ => True) (fun row inside => ?_) (by decide)
    simp only [rows, List.mem_cons, List.not_mem_nil, or_false] at inside
    rcases inside with rfl | rfl | rfl <;> exact ⟨_, _, rfl, trivial⟩
  have stored : w.database.Stores r.tracker.table ⟨true, rows⟩ := Database.Stores.holding _
  have shown : w.database.trackingRows r.tracker.table = rows := stored.trackingRows_eq
  have reserved : w.database.Reserved r.tracker.table := .inr ⟨_, stored⟩
  obtain ⟨report, reports, joins, tallies, tells⟩ :=
    status_joins r w _ listed reserved (shown ▸ legible) rfl
  rw [shown] at joins tallies tells
  refine ⟨⟨listed, reserved, shown ▸ legible, rfl⟩, report, reports, joins.entries, ?_, ?_, ?_, ?_⟩
  · have total : report.counts.total = 3 := by
      rw [tallies.total, ← List.length_map, joins.entries]
      rfl
    have pending : report.counts.pending = 1 := by rw [tallies.pending]; decide
    have inProgress : report.counts.inProgress = 0 := by rw [tallies.inProgress]; decide
    have completed : report.counts.completed = 1 := by rw [tallies.completed]; decide
    have failed : report.counts.failed = 1 := by rw [tallies.failed]; decide
    calc report.counts
        = ⟨report.counts.total, report.counts.pending, report.counts.inProgress,
            report.counts.completed, report.counts.failed⟩ := rfl
      _ = ⟨3, 1, 0, 1, 1⟩ := by rw [total, pending, inProgress, completed, failed]
  · exact (joins.orphaned _).mpr ⟨by decide, busy, by simp [rows], Stage.decode_row _ _⟩
  · exact (tells.dirty _).mpr ⟨failed, by simp [rows], rfl, by decide⟩
  · exact (tells.dirty _).mpr ⟨busy, by simp [rows], rfl, by decide⟩

end SchemaMigration
