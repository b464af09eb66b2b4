import SchemaMigration.Proofs.Prediction
import SchemaMigration.Proofs.Surveying

/-! # Views of a table

A status report, a check of the checksums and a run each join the source with the table on their own. On
a workable table and with no failing call they are functions of the same migrations and the same
records. What is failed or in progress for one of them is so for all.
-/

namespace SchemaMigration

open World

namespace Runner

variable {r : Runner} {o : RunOptions} {w : World} {migrations : List Migration}
variable {records : List MigrationRecord}

section
variable (listed : r.source.list = .ok migrations) (known : r.tracker.knownIn w.database = .ok records)
variable (calm : w.faults = [])
include listed known calm

/-- What looks at the source and at the table, and goes on with what it finds. -/
theorem joined_reads {α : Type} {f : List Migration → List MigrationRecord → Engine α}
    {result : Except EngineError α}
    (next : ∀ es, World.Reads { w with events := es } (f migrations records) result) :
    w.Reads (do
      let migrations ← r.discover
      let records ← r.tracker.listIfCreated
      f migrations records) result := by
  have discovers := discover_reads w r
  rw [listed] at discovers
  refine discovers.bind_ok fun es => ?_
  have lists : World.Reads { w with events := es } r.tracker.listIfCreated
      (r.tracker.knownIn w.database) := Tracker.listIfCreated_reads calm
  rw [known] at lists
  exact lists.bind_ok next

theorem status_reads :
    w.Reads r.status
      (.ok ⟨migrations.map (StatusEntry.ofMigration records), orphans migrations records⟩) :=
  joined_reads listed known calm fun _ => World.reads_value _ (.ok _)

theorem validate_reads : w.Reads r.validate (.ok (migrations.filterMap (drift? records))) :=
  joined_reads listed known calm fun _ =>
    (World.reads_forM fun _ _ _ => World.reads_note _ _ _).bind_ok fun _ => World.reads_value _ (.ok _)

end

theorem prospect_known {db : Database} (listed : r.source.list = .ok migrations)
    (known : r.tracker.knownIn db = .ok records) :
    r.prospect o db = (refusal (objection? o migrations records)).map fun _ => (migrations, records) := by
  rw [prospect, listed, known]
  change (refusal (objection? o migrations records) >>= fun _ => pure (migrations, records)) = _
  cases objection? o migrations records <;> rfl

end Runner

theorem Undisturbed.ids_new {clock : Nat → Time.Reading} {n : Nat} {migrations todo : List Migration}
    {records : List MigrationRecord} {result : Except EngineError RunReport} {new : List TrackingRow}
    {exs : List Execution} (h : Undisturbed clock n migrations records todo result new exs) :
    ∀ row ∈ new, ∃ m ∈ todo, row.id = some m.id.text := by
  have applied {n : Nat} {part : List Migration} (among : ∀ m ∈ part, m ∈ todo) :
      ∀ row ∈ appliedRows clock n part, ∃ m ∈ todo, row.id = some m.id.text := by
    intro row inside
    obtain ⟨m, source, k, -, -, rfl⟩ := mem_appliedRows inside
    exact ⟨m, among m source, rfl⟩
  cases h with
  | whole => exact applied fun m inside => inside
  | halted before m after e parts =>
      subst parts
      intro row inside
      rcases List.mem_append.mp inside with done | last
      · exact applied (fun m inside => List.mem_append_left _ inside) row done
      · rw [List.mem_singleton.mp last]
        exact ⟨m, by simp, rfl⟩

/-- The second rows are the first ones and then some with new ids. -/
def AddsNew (rows rows' : List TrackingRow) : Prop :=
  ∃ new, rows' = rows ++ new ∧ ∀ row ∈ new, row.id ∉ rows.map TrackingRow.id

theorem AddsNew.refl (rows : List TrackingRow) : AddsNew rows rows :=
  ⟨[], (List.append_nil rows).symm, fun _ inside => (List.not_mem_nil inside).elim⟩

theorem AddsNew.keeps {rows rows' : List TrackingRow} (h : AddsNew rows rows') (legible : Legible rows)
    {row : TrackingRow} (inside : row ∈ rows) :
    row ∈ rows' ∧ ∀ other ∈ rows', other.id = row.id → other = row := by
  obtain ⟨new, rfl, fresh⟩ := h
  refine ⟨List.mem_append_left new inside, fun other present same => ?_⟩
  rcases List.mem_append.mp present with old | late
  · exact List.inj_on_of_nodup_map legible.unique old inside same
  · exact (fresh other late (same ▸ List.mem_map_of_mem inside)).elim

namespace Runner

/-- How a run ends when no call fails. Refused for an `objection?`, it has executed nothing and changed
    no row. Otherwise it halts at an action that fails, or reports. -/
inductive Verdict (r : Runner) (o : RunOptions) (w : World) (migrations : List Migration)
    (records : List MigrationRecord) : Except EngineError RunReport → World → Prop
  | refused (e : EngineError) (w' : World) (objects : objection? o migrations records = some e)
      (idles : w.Idles r.tracker.table w') : Verdict r o w migrations records (.error e) w'
  | halted (failure : ExecutionFailure) (w' : World) (passes : objection? o migrations records = none)
      (adds : AddsNew (w.database.trackingRows r.tracker.table)
        (w'.database.trackingRows r.tracker.table)) :
      Verdict r o w migrations records (.error (.execution failure)) w'
  | reported (report : RunReport) (w' : World) (passes : objection? o migrations records = none)
      (dirty : report.skippedDirty = idsOf (dirtyOf records migrations))
      (drifted : report.drifted = (migrations.filterMap (drift? records)).map ChecksumMismatch.id)
      (adds : AddsNew (w.database.trackingRows r.tracker.table)
        (w'.database.trackingRows r.tracker.table)) :
      Verdict r o w migrations records (.ok report) w'

section
variable {r : Runner} {w : World} {migrations : List Migration} {records : List MigrationRecord}
variable {o : RunOptions} (listed : r.source.list = .ok migrations)
variable (known : r.tracker.knownIn w.database = .ok records) (calm : w.faults = [])
include listed known calm

theorem dry_verdict (dry : o.dryRun = true) :
    ∃ result w', w.run (r.run o) = (result, w') ∧ Verdict r o w migrations records result w' := by
  obtain ⟨es, ends, quiet⟩ := dry_run_ends (r := r) dry calm
  rw [prospect_known listed known] at ends
  refine ⟨_, _, ends, ?_⟩
  cases objects : objection? o migrations records with
  | some e => exact .refused e _ objects ⟨rfl, es, ⟨rfl, rfl, rfl, fun none => none⟩, quiet⟩
  | none => exact .reported _ _ objects rfl List.map_filterMap.symm (.refl _)

variable (makeable : w.database.CanMake r.tracker.table)
variable (alone : r.source.LeavesAlone r.tracker.table)
include makeable alone

theorem live_verdict (live : o.dryRun = false) :
    ∃ result w', w.run (r.run o) = (result, w') ∧ Verdict r o w migrations records result w' := by
  have foretold := prepare_foretold (r := r) o makeable calm
  rw [prospect_known listed known] at foretold
  cases objects : objection? o migrations records with
  | some e =>
      rw [objects] at foretold
      obtain ⟨result, w', prepares, idles, -⟩ := prepare_ends r o w
      rw [prepares] at foretold
      obtain rfl : result = .error e := foretold
      refine ⟨.error e, w', ?_, .refused e w' objects idles⟩
      rw [run_eq live, World.run_bind_error prepares]
  | none =>
      rw [objects] at foretold
      obtain ⟨-, result, new, n, es, constrained, w', runs, course, stored, -⟩ :=
        run_undisturbed live alone calm foretold
      -- What is selected has no row, so that no id of an added row was taken.
      have adds : AddsNew (w.database.trackingRows r.tracker.table)
          (w'.database.trackingRows r.tracker.table) := by
        refine ⟨new, stored.trackingRows_eq, fun row inside old => ?_⟩
        obtain ⟨m, selected, own⟩ := course.ids_new row inside
        obtain ⟨other, present, same⟩ := List.mem_map.mp old
        exact List.find?_eq_none.mp (selection_source selected).1 other present
          (TrackingRow.hasId_iff.mpr (same.trans own))
      refine ⟨result, w', runs, ?_⟩
      generalize executionsIn es = exs at course
      cases course with
      | whole => exact .reported _ w' objects rfl List.map_filterMap.symm adds
      | halted => exact .halted _ w' objects adds

variable (o) in
theorem verdict :
    ∃ result w', w.run (r.run o) = (result, w') ∧ Verdict r o w migrations records result w' := by
  cases dry : o.dryRun with
  | true => exact dry_verdict listed known calm dry
  | false => exact live_verdict listed known calm makeable alone dry

theorem run_refused {e : EngineError} (objects : objection? o migrations records = some e) :
    (w.run (r.run o)).1 = .error e ∧ w.Idles r.tracker.table (w.run (r.run o)).2 := by
  obtain ⟨result, w', runs, ends⟩ := verdict o listed known calm makeable alone
  rw [runs]
  cases ends with
  | refused e' w' objects' idles =>
      obtain rfl : e' = e := Option.some.inj (objects'.symm.trans objects)
      exact ⟨rfl, idles⟩
  | halted failure w' passes => cases passes.symm.trans objects
  | reported report w' passes => cases passes.symm.trans objects

theorem run_refused_iff {e : EngineError} (other : ∀ failure, e ≠ .execution failure) :
    (w.run (r.run o)).1 = .error e ↔ objection? o migrations records = some e := by
  refine ⟨fun fails => ?_, fun objects => (run_refused listed known calm makeable alone objects).1⟩
  obtain ⟨result, w', runs, ends⟩ := verdict o listed known calm makeable alone
  rw [runs] at fails
  cases ends with
  | refused e' w' objects => rw [objects, Except.error.inj fails]
  | halted failure w' => exact (other failure (Except.error.inj fails).symm).elim
  | reported report w' => cases fails

theorem run_reports {report : RunReport} (succeeds : (w.run (r.run o)).1 = .ok report) :
    report.skippedDirty = idsOf (dirtyOf records migrations) ∧
      report.drifted = (migrations.filterMap (drift? records)).map ChecksumMismatch.id := by
  obtain ⟨result, w', runs, ends⟩ := verdict o listed known calm makeable alone
  rw [runs] at succeeds
  cases ends with
  | refused e w' => cases succeeds
  | halted failure w' => cases succeeds
  | reported report' w' passes dirty drifted =>
      obtain rfl : report' = report := Except.ok.inj succeeds
      exact ⟨dirty, drifted⟩

variable (o) in
theorem run_adds : AddsNew (w.database.trackingRows r.tracker.table)
    ((w.run (r.run o)).2.database.trackingRows r.tracker.table) := by
  obtain ⟨result, w', runs, ends⟩ := verdict o listed known calm makeable alone
  rw [runs]
  cases ends with
  | refused e w' objects idles => exact idles.rows.symm ▸ AddsNew.refl _
  | halted failure w' passes adds => exact adds
  | reported report w' passes dirty drifted adds => exact adds

end

end Runner

theorem StatusReport.isDirty_iff (report : StatusReport) :
    report.isDirty = true ↔ report.failed ≠ [] := by
  rw [isDirty, failed, Ne, List.append_eq_nil_iff, List.map_eq_nil_iff, not_and_or, Bool.or_eq_true,
    List.any_eq_true, List.any_eq_true]
  simp only [List.filter_eq_nil_iff, not_forall, not_not, exists_prop]

section
variable {migrations : List Migration} {records : List MigrationRecord}

abbrev statusOn (migrations : List Migration) (records : List MigrationRecord) : StatusReport :=
  ⟨migrations.map (StatusEntry.ofMigration records), orphans migrations records⟩

/-- What the report tells of the source as failed or in progress is what a forced run passes over. -/
theorem failed_source (migrations : List Migration) (records : List MigrationRecord) :
    ((statusOn migrations records).failed.filter (!·.orphaned)).map StatusEntry.id =
      idsOf (dirtyOf records migrations) := by
  have beside : (((orphans migrations records).filter (·.state.isDirty)).map
      StatusEntry.ofOrphan).filter (!·.orphaned) = [] := by
    apply List.filter_eq_nil_iff.mpr
    intro entry inside
    obtain ⟨record, -, rfl⟩ := List.mem_map.mp inside
    exact Bool.false_ne_true
  have source : ((migrations.map (StatusEntry.ofMigration records)).filter
      (·.state.isDirty)).filter (!·.orphaned) =
        (dirtyOf records migrations).map (StatusEntry.ofMigration records) := by
    rw [List.filter_filter, List.filter_map]
    rfl
  rw [StatusReport.failed, List.filter_append, beside, source, List.append_nil, List.map_map]
  rfl

theorem mem_failed (ascend : RecordsAscend records) {id : MigrationId} {s : MigrationState} :
    (∃ entry ∈ (statusOn migrations records).failed, entry.id = id ∧ entry.state = s) ↔
      ∃ record ∈ records, record.state.isDirty = true ∧ record.id = id ∧ record.state = s := by
  simp only [StatusReport.failed, List.mem_append, List.mem_map, ascend.mem_dirtyOrphans]
  constructor
  · rintro ⟨entry, source | ⟨record, ⟨known, -, dirty⟩, rfl⟩, rfl, rfl⟩
    · obtain ⟨listed, dirty⟩ := List.mem_filter.mp source
      obtain ⟨m, -, rfl⟩ := List.mem_map.mp listed
      have begun : stateOf records m.id ≠ .pending := by
        intro pending
        rw [show (StatusEntry.ofMigration records m).state = _ from pending] at dirty
        cases dirty
      obtain ⟨record, known, own, same⟩ := (ascend.stateOf_iff begun).mp rfl
      exact ⟨record, known, same ▸ dirty, own, same⟩
    · exact ⟨record, known, dirty, rfl, rfl⟩
  · rintro ⟨record, known, dirty, rfl, rfl⟩
    by_cases source : record.id ∈ idsOf migrations
    · obtain ⟨m, inside, own⟩ := List.mem_map.mp source
      have same : (StatusEntry.ofMigration records m).state = record.state := by
        rw [← ascend.stateOf_own known, ← own]
        rfl
      refine ⟨.ofMigration records m, .inl ?_, own, same⟩
      exact List.mem_filter.mpr ⟨List.mem_map_of_mem inside, same ▸ dirty⟩
    · exact ⟨.ofOrphan record, .inr ⟨record, ⟨known, source, dirty⟩, rfl⟩, rfl, rfl⟩

theorem mem_failed_ids (ascend : RecordsAscend records) {id : MigrationId} :
    id ∈ (statusOn migrations records).failed.map StatusEntry.id ↔
      id ∈ (records.filter (·.state.isDirty)).map MigrationRecord.id := by
  rw [List.mem_map, List.mem_map]
  constructor
  · rintro ⟨entry, inside, rfl⟩
    obtain ⟨record, known, dirty, own, -⟩ := (mem_failed ascend).mp ⟨entry, inside, rfl, rfl⟩
    exact ⟨record, List.mem_filter.mpr ⟨known, dirty⟩, own⟩
  · rintro ⟨record, inside, rfl⟩
    obtain ⟨known, dirty⟩ := List.mem_filter.mp inside
    obtain ⟨entry, inside, own, -⟩ := (mem_failed ascend).mpr ⟨record, known, dirty, rfl, rfl⟩
    exact ⟨entry, inside, own⟩

theorem failed_ne_nil (ascend : RecordsAscend records) :
    (statusOn migrations records).failed ≠ [] ↔ records.filter (·.state.isDirty) ≠ [] := by
  have same (id : MigrationId) : id ∈ (statusOn migrations records).failed.map StatusEntry.id ↔
      id ∈ (records.filter (·.state.isDirty)).map MigrationRecord.id := mem_failed_ids ascend
  rw [Ne, Ne, ← List.map_eq_nil_iff (f := StatusEntry.id), ← List.map_eq_nil_iff (f := MigrationRecord.id),
    List.eq_nil_iff_forall_not_mem, List.eq_nil_iff_forall_not_mem]
  simp only [same]

theorem Runner.objection?_dirtyState {o : RunOptions} {id : MigrationId} {s : MigrationState}
    {ids : List MigrationId} :
    objection? o migrations records = some (.dirtyState id s ids) ↔ o.force = false ∧
      ∃ first rest, records.filter (·.state.isDirty) = first :: rest ∧ first.id = id ∧
        first.state = s ∧ (first :: rest).map MigrationRecord.id = ids := by
  have others : (targetObjection? migrations o.target).or
      (driftObjection? o.strictChecksums records migrations) ≠ some (.dirtyState id s ids) := by
    intro same
    rcases Option.or_eq_some_iff.mp same with target | ⟨-, drift⟩
    · cases asked : o.target <;> rw [asked, targetObjection?] at target
      case upTo => split at target <;> cases target
      all_goals cases target
    · unfold driftObjection? at drift
      split at drift
      · obtain ⟨d, -, differs⟩ := Option.map_eq_some_iff.mp drift
        cases differs
      · cases drift
  rw [objection?, dirtyObjection?]
  cases dirty : records.filter (·.state.isDirty) with
  | nil => simp [others]
  | cons first rest =>
      cases o.force with
      | true => simp [others]
      | false => simp [and_assoc]

end

/-- A refusal names what a report tells as failed or in progress: all of it, in ascending order, and the
    first of it with its state. -/
structure StatusReport.NamedBy (report : StatusReport) (id : MigrationId) (state : MigrationState)
    (dirty : List MigrationId) : Prop where
  ascend : dirty.Pairwise (· < ·)
  same : ∀ id, id ∈ dirty ↔ id ∈ report.failed.map StatusEntry.id
  first : dirty.head? = some id
  state : ∃ entry ∈ report.failed, entry.id = id ∧ entry.state = state

/-- A forced run passes over what a report tells of the source as failed or in progress, and leaves all
    such rows as they are. -/
structure StatusReport.PassedOver (report : StatusReport) (result : Except EngineError RunReport)
    (rows rows' : List TrackingRow) : Prop where
  goesOn : ∀ id state dirty, result ≠ .error (.dirtyState id state dirty)
  skipped : ∀ done, result = .ok done →
    done.skippedDirty = (report.failed.filter (!·.orphaned)).map StatusEntry.id
  kept : ∀ row ∈ rows, row.state.isDirty = true →
    row ∈ rows' ∧ ∀ other ∈ rows', other.id = row.id → other = row

/-- On a workable table and with no failing call, all views agree on what is failed or in progress. The
    status tells it exactly when a run that is not forced is refused for it, and by the same ids
    (`NamedBy`); then nothing is executed and no row changes. A forced run passes over what the status
    tells of the source, and leaves the rows as they are (`PassedOver`). -/
theorem dirty_views_agree (r : Runner) (w : World) (migrations : List Migration)
    (listed : r.source.list = .ok migrations) (workable : Workable r.tracker w.database)
    (alone : r.source.LeavesAlone r.tracker.table) (calm : w.faults = []) :
    let rows (w : World) := w.database.trackingRows r.tracker.table
    ∃ report, (w.run r.status).1 = .ok report ∧ (report.isDirty = true ↔ report.failed ≠ []) ∧
      ∀ o : RunOptions,
        let ran := w.run (r.run o)
        (o.force = false →
          (report.isDirty = true ↔ ∃ id state dirty, ran.1 = .error (.dirtyState id state dirty)) ∧
          ∀ id state dirty, ran.1 = .error (.dirtyState id state dirty) →
            report.NamedBy id state dirty ∧ w.Idles r.tracker.table ran.2) ∧
        (o.force = true → report.PassedOver ran.1 (rows w) (rows ran.2)) := by
  intro rows
  obtain ⟨records, known, decoded⟩ := workable.known
  have ascend := workable.legible.records_ascend decoded
  obtain ⟨es, reports⟩ := Runner.status_reads listed known calm
  refine ⟨statusOn migrations records, congrArg Prod.fst reports, StatusReport.isDirty_iff _,
    fun o => ?_⟩
  intro ran
  have makeable := workable.makeable
  have refused (id : MigrationId) (s : MigrationState) (ids : List MigrationId) :
      ran.1 = .error (.dirtyState id s ids) ↔ o.force = false ∧
        ∃ first rest, records.filter (·.state.isDirty) = first :: rest ∧ first.id = id ∧
          first.state = s ∧ (first :: rest).map MigrationRecord.id = ids :=
    (Runner.run_refused_iff listed known calm makeable alone
      (fun _ same => by cases same)).trans Runner.objection?_dirtyState
  refine ⟨fun unforced => ⟨?_, fun id s ids fails => ?_⟩,
    fun forced => ⟨fun id s ids fails => ?_, fun done succeeds => ?_, fun row inside _ => ?_⟩⟩
  · rw [StatusReport.isDirty_iff, failed_ne_nil ascend]
    constructor
    · intro some_dirty
      obtain ⟨first, rest, dirty⟩ := List.exists_cons_of_ne_nil some_dirty
      exact ⟨_, _, _, (refused _ _ _).mpr ⟨unforced, first, rest, dirty, rfl, rfl, rfl⟩⟩
    · rintro ⟨id, s, ids, fails⟩
      obtain ⟨-, first, rest, dirty, -⟩ := (refused id s ids).mp fails
      rw [dirty]
      exact List.cons_ne_nil first rest
  · obtain ⟨-, first, rest, dirty, rfl, rfl, rfl⟩ := (refused id s ids).mp fails
    obtain ⟨among, is_dirty⟩ :=
      List.mem_filter.mp (dirty ▸ List.mem_cons_self : first ∈ records.filter (·.state.isDirty))
    have objects := (Runner.run_refused_iff listed known calm makeable alone
      (fun _ same => by cases same)).mp fails
    refine ⟨⟨?_, fun id => ?_, rfl, (mem_failed ascend).mpr ⟨first, among, is_dirty, rfl, rfl⟩⟩,
      (Runner.run_refused listed known calm makeable alone objects).2⟩
    · rw [← dirty, List.pairwise_map]
      exact ascend.filter _
    · rw [mem_failed_ids ascend, dirty]
  · obtain ⟨unforced, -⟩ := (refused id s ids).mp fails
    rw [forced] at unforced
    cases unforced
  · rw [(Runner.run_reports listed known calm makeable alone succeeds).1, failed_source]
  · exact (Runner.run_adds o listed known calm makeable alone).keeps workable.legible inside

open Sample

/-- A failed migration of the source and a record in progress that belongs to none. -/
theorem dirty_views_agree_mixed :
    let lost : MigrationId := ⟨"009", by decide⟩
    let failed : TrackingRow := (Stage.failed (.ofMicros 0) (.ofMicros 5) "no space").row second.id
    let busy : TrackingRow := (Stage.inProgress (.ofMicros 8)).row lost
    let db : Database := .holding ⟨true, [failed, busy]⟩
    let r : Runner := ⟨.registry [first, second], ⟨.standard⟩⟩
    let w := World.ticking db
    (r.source.list = .ok [first, second] ∧ Workable r.tracker w.database ∧
      r.source.LeavesAlone r.tracker.table ∧ w.faults = []) ∧
    (w.run (r.run {})).1 = .error (.dirtyState second.id .failed [second.id, lost]) ∧
    ∃ report, (w.run r.status).1 = .ok report ∧ report.isDirty = true ∧
      (∀ id, id ∈ [second.id, lost] ↔ id ∈ report.failed.map StatusEntry.id) ∧
      busy ∈ (w.run (r.run { force := true })).2.database.trackingRows r.tracker.table := by
  intro lost failed busy db r w
  have listed : r.source.list = .ok [first, second] := inOrder_of_ascending (by decide)
  have legible : Legible [failed, busy] := by
    refine Staged.legible (P := fun _ _ => True) (fun row inside => ?_) (by decide)
    rcases List.mem_pair.mp inside with rfl | rfl <;> exact ⟨_, _, rfl, trivial⟩
  have stored : w.database.Stores r.tracker.table ⟨true, [failed, busy]⟩ := Database.Stores.holding _
  have workable : Workable r.tracker w.database := .of_stores stored legible
  have alone : r.source.LeavesAlone r.tracker.table :=
    Source.leavesAlone_silent listed (by decide) r.tracker.table
  have known : r.tracker.knownIn w.database = .ok
      [(Stage.failed (.ofMicros 0) (.ofMicros 5) "no space").record second.id,
        (Stage.inProgress (.ofMicros 8)).record lost] := by
    rw [Tracker.knownIn_stored stored, List.mergeSort_of_pairwise (by decide)]
    simp [Tracker.decodeRow, failed, busy, Stage.decode_row]
    rfl
  have refused : (w.run (r.run {})).1 = .error (.dirtyState second.id .failed [second.id, lost]) :=
    (Runner.run_refused listed known rfl workable.makeable alone rfl).1
  obtain ⟨report, reports, -, each⟩ := dirty_views_agree r w [first, second] listed workable alone rfl
  obtain ⟨dirty, told⟩ := (each {}).1 rfl
  have present : busy ∈ w.database.trackingRows r.tracker.table := by
    rw [stored.trackingRows_eq]
    exact List.mem_pair.mpr (.inr rfl)
  have kept := ((each { force := true }).2 rfl).kept busy present rfl
  exact ⟨⟨listed, workable, alone, rfl⟩, refused, report, reports, dirty.mpr ⟨_, _, _, refused⟩,
    (told _ _ _ refused).1.same, kept.1⟩

end SchemaMigration
