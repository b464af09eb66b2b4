import SchemaMigration.Proofs.Completion
import SchemaMigration.Proofs.Reading

/-! # Repeating a run

A run that succeeds leaves nothing to do for the same run. Nothing is assumed about the ids of the
table here: a table without constraints can have several rows of one id, and what counts is the last
record. Sorting keeps rows of one id in their order, so that it is the record of the last row.
-/

namespace SchemaMigration

namespace TrackingRow

theorem idNotAfter_total (a b : TrackingRow) : (a.idNotAfter b || b.idNotAfter a) = true := by
  unfold idNotAfter
  cases a.id <;> cases b.id <;> simp [String.le_total]

theorem idNotAfter_trans (a b c : TrackingRow) (first : a.idNotAfter b = true)
    (second : b.idNotAfter c = true) : a.idNotAfter c = true := by
  unfold idNotAfter at *
  cases ida : a.id <;> cases idb : b.id <;> cases idc : c.id <;> simp_all
  exact String.le_trans first second

theorem filter_sorted (rows : List TrackingRow) (id : String) :
    (rows.mergeSort idNotAfter).filter (·.hasId id) = rows.filter (·.hasId id) := by
  have ordered : (rows.filter (·.hasId id)).Pairwise (idNotAfter · ·) := by
    apply List.pairwise_of_forall_mem_list
    intro a inside b inside'
    have same := (hasId_iff.mp (List.mem_filter.mp inside).2)
    have same' := (hasId_iff.mp (List.mem_filter.mp inside').2)
    simp [idNotAfter, same, same']
  have kept : (rows.filter (·.hasId id)).Sublist ((rows.mergeSort idNotAfter).filter (·.hasId id)) := by
    have inside := List.sublist_mergeSort idNotAfter_trans idNotAfter_total ordered
      List.filter_sublist
    simpa using inside.filter (·.hasId id)
  have length := ((List.mergeSort_perm rows idNotAfter).filter (·.hasId id)).length_eq
  exact (kept.eq_of_length length.symm).symm

end TrackingRow

theorem recordOf?_eq_getLast? (records : List MigrationRecord) (id : MigrationId) :
    recordOf? records id = (records.filter fun r => r.id = id).getLast? := by
  rw [recordOf?, ← List.head?_filter, List.filter_reverse, List.head?_reverse]

theorem Tracker.decodeRow_unique :
    Relator.RightUnique fun (row : TrackingRow) r => Tracker.decodeRow row = .ok r := by
  intro row r r' first second
  exact Except.ok.inj (first.symm.trans second)

section
variable {rows new : List TrackingRow} {records records' : List MigrationRecord}
variable (decoded : (rows.mergeSort TrackingRow.idNotAfter).mapM Tracker.decodeRow = .ok records)
variable (decoded' :
  ((rows ++ new).mergeSort TrackingRow.idNotAfter).mapM Tracker.decodeRow = .ok records')

include decoded in
theorem records_of_id (id : MigrationId) :
    List.Forall₂ (fun row r => Tracker.decodeRow row = .ok r) (rows.filter (·.hasId id.text))
      (records.filter fun r => r.id = id) := by
  rw [← TrackingRow.filter_sorted]
  refine List.rel_filter ?_ (forall₂_of_mapM_ok decoded)
  intro row r decodes
  have own := (Tracker.holds_of_decodeRow decodes).id
  simp only [TrackingRow.hasId_iff, own, decide_eq_true_iff, Option.some.injEq]
  exact ⟨MigrationId.ext_text, congrArg MigrationId.text⟩

include decoded decoded' in
theorem recordOf?_append_old {id : MigrationId} (others : ∀ row ∈ new, row.hasId id.text = false) :
    recordOf? records' id = recordOf? records id := by
  have after := records_of_id decoded' id
  have none_new : new.filter (·.hasId id.text) = [] :=
    List.filter_eq_nil_iff.mpr fun row inside own => by simp [others row inside] at own
  rw [List.filter_append, none_new, List.append_nil] at after
  rw [recordOf?_eq_getLast?, recordOf?_eq_getLast?]
  exact congrArg _ (List.right_unique_forall₂' Tracker.decodeRow_unique after
    (records_of_id decoded id))

include decoded' in
theorem recordOf?_append_new {id : MigrationId} {row : TrackingRow}
    (absent : rows.find? (·.hasId id.text) = none) (single : new.filter (·.hasId id.text) = [row]) :
    ∃ r, recordOf? records' id = some r ∧ row.Holds r := by
  have after := records_of_id decoded' id
  have none_old : rows.filter (·.hasId id.text) = [] :=
    List.filter_eq_nil_iff.mpr (List.find?_eq_none.mp absent)
  rw [List.filter_append, none_old, single, List.nil_append] at after
  obtain ⟨r, rest, decodes, none_left, same⟩ := List.forall₂_cons_left_iff.mp after
  obtain rfl := List.forall₂_nil_left_iff.mp none_left
  rw [recordOf?_eq_getLast?, same]
  exact ⟨r, rfl, Tracker.holds_of_decodeRow decodes⟩

end

section
variable {clock : Nat → Time.Reading} {n : Nat} {todo : List Migration}

theorem appliedRows_of_others {id : MigrationId} (other : id ∉ idsOf todo) :
    ∀ row ∈ appliedRows clock n todo, row.hasId id.text = false := by
  intro row inside
  obtain ⟨m, among, k, -, -, rfl⟩ := mem_appliedRows inside
  refine hasId_of_ne (fun same => other ?_) rfl
  exact same ▸ List.mem_map_of_mem among

theorem appliedRows_of_one (clock : Nat → Time.Reading) (n : Nat) {m : Migration} (among : m ∈ todo)
    (distinct : (idsOf todo).Nodup) :
    ∃ start finish, (appliedRows clock n todo).filter (·.hasId m.id.text) =
      [appliedRow m start finish] := by
  induction todo generalizing n with
  | nil => cases among
  | cons first rest ih =>
      obtain ⟨fresh, distinct⟩ := List.nodup_cons.mp distinct
      have own (start finish : Time.Reading) :
          (appliedRow first start finish).hasId first.id.text = true :=
        TrackingRow.hasId_iff.mpr rfl
      rcases List.mem_cons.mp among with rfl | later
      · refine ⟨clock n, clock (n + 1), ?_⟩
        rw [appliedRows, List.filter_cons_of_pos (own _ _), List.filter_eq_nil_iff.mpr]
        intro row inside
        rw [appliedRows_of_others fresh row inside]
        exact Bool.false_ne_true
      · have different : m.id ≠ first.id := fun same => fresh (same ▸ List.mem_map_of_mem later)
        have skipped (start finish : Time.Reading) :
            ¬(appliedRow first start finish).hasId m.id.text = true := by
          rw [hasId_of_ne different rfl]
          exact Bool.false_ne_true
        rw [appliedRows, List.filter_cons_of_neg (skipped _ _)]
        exact ih (n + 2) later distinct

end

/-- The records of a table before and after migrations were applied that had no rows. -/
structure Extended (todo : List Migration) (records records' : List MigrationRecord) : Prop where
  absent : ∀ m ∈ todo, recordOf? records m.id = none
  kept : ∀ id, id ∉ idsOf todo → recordOf? records' id = recordOf? records id
  added : ∀ m ∈ todo, ∃ r, recordOf? records' m.id = some r ∧ r.status = .completed ∧
    r.checksum = some m.checksum

theorem extended_of_applied {rows : List TrackingRow} {records records' : List MigrationRecord}
    {clock : Nat → Time.Reading} {n : Nat} {todo : List Migration}
    (decoded : (rows.mergeSort TrackingRow.idNotAfter).mapM Tracker.decodeRow = .ok records)
    (decoded' : ((rows ++ appliedRows clock n todo).mergeSort TrackingRow.idNotAfter).mapM
      Tracker.decodeRow = .ok records')
    (absent : ∀ m ∈ todo, rows.find? (·.hasId m.id.text) = none) (distinct : (idsOf todo).Nodup) :
    Extended todo records records' := by
  have recorded := Tracker.recorded_of_list decoded
  refine ⟨fun m among => recorded.recordOf?_eq_none.mpr (absent m among), fun id other => ?_,
    fun m among => ?_⟩
  · exact recordOf?_append_old decoded decoded' (appliedRows_of_others other)
  · obtain ⟨start, finish, single⟩ := appliedRows_of_one clock n among distinct
    obtain ⟨r, found, holds⟩ := recordOf?_append_new decoded' (absent m among) single
    refine ⟨r, found, ?_, holds.checksum.symm⟩
    have status : completedStatus = r.status.text := Option.some.inj holds.status
    cases known : r.status with
    | completed => rfl
    | inProgress | failed =>
        rw [known] at status
        exact absurd status (by decide)

theorem mem_of_ids {todo migrations : List Migration} (selected : todo.Sublist migrations)
    (distinct : (idsOf migrations).Nodup)
    {m : Migration} (known : m ∈ migrations) (among : m.id ∈ idsOf todo) : m ∈ todo := by
  obtain ⟨other, inside, same⟩ := List.mem_map.mp among
  rwa [← List.inj_on_of_nodup_map distinct (selected.subset inside) known same]

theorem filter_ids {todo migrations : List Migration} (selected : todo.Sublist migrations)
    (distinct : (idsOf migrations).Nodup) :
    (migrations.filter fun m => m.id ∈ idsOf todo) = todo := by
  have each : migrations.Nodup := List.Nodup.of_map _ distinct
  have all_in : todo.filter (fun m => m.id ∈ idsOf todo) = todo :=
    List.filter_eq_self.mpr fun m inside => decide_eq_true (List.mem_map_of_mem inside)
  have part := selected.filter fun m => decide (m.id ∈ idsOf todo)
  rw [all_in] at part
  refine (part.eq_of_length ?_).symm
  refine ((List.perm_ext_iff_of_nodup (each.sublist selected) (each.filter _)).mpr ?_).length_eq
  intro m
  rw [List.mem_filter]
  constructor
  · exact fun inside => ⟨selected.subset inside, decide_eq_true (List.mem_map_of_mem inside)⟩
  · rintro ⟨known, among⟩
    exact mem_of_ids selected distinct known (of_decide_eq_true among)

namespace Extended

variable {todo migrations : List Migration} {records records' : List MigrationRecord}
variable (h : Extended todo records records')
include h

theorem stateOf_old {id : MigrationId} (other : id ∉ idsOf todo) :
    stateOf records' id = stateOf records id := by
  rw [stateOf, h.kept id other, stateOf]

theorem stateOf_new {id : MigrationId} (among : id ∈ idsOf todo) :
    stateOf records id = .pending ∧ stateOf records' id = .completed := by
  obtain ⟨m, inside, rfl⟩ := List.mem_map.mp among
  obtain ⟨r, found, status, -⟩ := h.added m inside
  rw [stateOf, stateOf, h.absent m inside, found]
  exact ⟨rfl, congrArg MigrationStatus.toState status⟩

theorem isDirty_eq (id : MigrationId) :
    (stateOf records' id).isDirty = (stateOf records id).isDirty := by
  by_cases among : id ∈ idsOf todo
  · obtain ⟨before, after⟩ := h.stateOf_new among
    rw [before, after]
    rfl
  · rw [h.stateOf_old among]

theorem dirtyOf_eq (migrations : List Migration) :
    dirtyOf records' migrations = dirtyOf records migrations :=
  List.filter_congr fun m _ => h.isDirty_eq m.id

theorem drift?_eq {m : Migration} (known : m.id ∈ idsOf todo → m ∈ todo) :
    drift? records' m = drift? records m := by
  by_cases among : m.id ∈ idsOf todo
  · obtain ⟨r, found, status, checksum⟩ := h.added m (known among)
    simp [drift?, h.absent m (known among), found, status, checksum]
  · simp only [drift?, h.kept m.id among]

theorem countP_completed (selected : todo.Sublist migrations)
    (distinct : (idsOf migrations).Nodup) :
    (migrations.countP fun m => stateOf records' m.id = .completed) =
      (migrations.countP fun m => stateOf records m.id = .completed) + todo.length := by
  let applied (m : Migration) : Bool := m.id ∈ idsOf todo
  have whole : migrations.filter applied = todo := filter_ids selected distinct
  have after : (todo.countP fun m => stateOf records' m.id = .completed) = todo.length := by
    rw [List.countP_eq_length]
    intro m inside
    exact decide_eq_true (h.stateOf_new (List.mem_map_of_mem inside)).2
  have before : (todo.countP fun m => stateOf records m.id = .completed) = 0 := by
    rw [List.countP_eq_zero]
    intro m inside completed
    rw [(h.stateOf_new (List.mem_map_of_mem inside)).1] at completed
    cases of_decide_eq_true completed
  have others : ((migrations.filter fun m => !applied m).countP
      fun m => stateOf records' m.id = .completed) =
      ((migrations.filter fun m => !applied m).countP fun m => stateOf records m.id = .completed) := by
    apply List.countP_congr
    intro m inside
    have other := (List.mem_filter.mp inside).2
    rw [Bool.not_eq_true', decide_eq_false_iff_not] at other
    rw [h.stateOf_old other]
  rw [List.countP_eq_countP_filter_add migrations _ applied, whole, after, others,
    List.countP_eq_countP_filter_add migrations (fun m => stateOf records m.id = .completed) applied,
    whole, before, Nat.zero_add, Nat.add_comm]

theorem select_eq_nil {target : RunTarget} (whole : target = .all ∨ ∃ id, target = .upTo id)
    (selected : todo = target.select (pendingOf records migrations)) :
    target.select (pendingOf records' migrations) = [] := by
  apply List.eq_nil_iff_forall_not_mem.mpr
  intro m left
  have pending : m ∈ pendingOf records' migrations := RunTarget.mem_of_select left
  rw [pendingOf, List.mem_filter, decide_eq_true_iff] at pending
  have other : m.id ∉ idsOf todo := by
    intro among
    rw [(h.stateOf_new among).2] at pending
    cases pending.2
  rw [h.stateOf_old other] at pending
  have before : m ∈ pendingOf records migrations :=
    List.mem_filter.mpr ⟨pending.1, decide_eq_true pending.2⟩
  apply other
  apply List.mem_map_of_mem
  rw [selected]
  rcases whole with rfl | ⟨id, rfl⟩
  · exact before
  · exact List.mem_filter.mpr ⟨before, (List.mem_filter.mp left).2⟩

theorem filterMap_drift?_eq (selected : todo.Sublist migrations)
    (distinct : (idsOf migrations).Nodup) :
    migrations.filterMap (drift? records') = migrations.filterMap (drift? records) :=
  List.filterMap_congr fun _ inside => h.drift?_eq (mem_of_ids selected distinct inside)

theorem reportOn_eq (selected : todo.Sublist migrations) (distinct : (idsOf migrations).Nodup) :
    let report := Runner.reportOn migrations records (idsOf todo)
    Runner.reportOn migrations records' [] =
      { report with
        applied := []
        planned := []
        alreadyApplied := report.alreadyApplied + report.applied.length } := by
  have drifted := congrArg (List.map ChecksumMismatch.id) (h.filterMap_drift?_eq selected distinct)
  simp only [List.map_filterMap] at drifted
  simp only [Runner.reportOn, h.dirtyOf_eq, drifted, h.countP_completed selected distinct, idsOf,
    List.length_map]

theorem objection?_eq_none {o : RunOptions} (selected : todo.Sublist migrations)
    (distinct : (idsOf migrations).Nodup)
    (clean : (∀ r ∈ records, r.state.isDirty = false) → ∀ r ∈ records', r.state.isDirty = false)
    (before : Runner.objection? o migrations records = none) :
    Runner.objection? o migrations records' = none := by
  simp only [Runner.objection?, Option.or_eq_none_iff] at before ⊢
  obtain ⟨dirty, target, drift⟩ := before
  refine ⟨?_, target, ?_⟩
  · rw [Runner.dirtyObjection?_eq_none] at dirty ⊢
    exact dirty.imp_right clean
  · rw [Runner.driftObjection?] at drift ⊢
    rwa [← List.head?_filterMap, h.filterMap_drift?_eq selected distinct, List.head?_filterMap]

end Extended

namespace Runner

variable {r : Runner} {o : RunOptions}

theorem Prepared.objection?_eq_none {rows : List TrackingRow} {migrations : List Migration}
    {records : List MigrationRecord} (h : r.Prepared o rows migrations records) :
    objection? o migrations records = none := by
  -- What the checks come to is the same wherever they are made.
  let w := World.start .empty fun _ => .ofMicros 0
  obtain ⟨es, ends⟩ := check_reads w o migrations records
  obtain ⟨w', passes⟩ := h.passes w
  exact refusal_eq_ok.mp (congrArg Prod.fst (ends.symm.trans passes))

/-- What stood before a run that applied all it had selected still stands before the next one, with
    the records of what was applied. -/
theorem Prepared.prospect_applied {db : Database} {constrained : Bool} {rows : List TrackingRow}
    {migrations : List Migration} {records : List MigrationRecord} {clock : Nat → Time.Reading}
    {n : Nat} (h : r.Prepared o rows migrations records)
    (stored : db.Stores r.tracker.table
      ⟨constrained, rows ++ appliedRows clock n (r.selection o rows)⟩) :
    ∃ records', Extended (r.selection o rows) records records' ∧
      r.prospect o db = .ok (migrations, records') := by
  have distinct := (Source.list_ascending h.listed).distinct
  have part : (r.selection o rows).Sublist migrations := by
    rw [selection_eq h.listed]
    exact (RunTarget.select_sublist _ _).trans List.filter_sublist
  have decodes := decodes_applied h.decodes clock n (r.selection o rows)
  obtain ⟨records', decoded'⟩ := Tracker.decoded_of_decodes fun row inside =>
    decodes row (List.mem_mergeSort.mp inside)
  have extended : Extended (r.selection o rows) records records' :=
    extended_of_applied h.decoded decoded' (fun m among => (selection_source among).1)
      (distinct.sublist (part.map _))
  have clean (before : ∀ r ∈ records, r.state.isDirty = false) :
      ∀ r ∈ records', r.state.isDirty = false := by
    intro r' inside
    obtain ⟨row, present, holds⟩ := (Tracker.recorded_of_list decoded').of_record r' inside
    rw [← holds.state_eq]
    rcases List.mem_append.mp present with old | new
    · obtain ⟨r, among, holds⟩ := h.recorded.of_row row old
      rw [holds.state_eq]
      exact before r among
    · obtain ⟨m, -, k, -, -, rfl⟩ := mem_appliedRows new
      rfl
  refine ⟨records', extended, prospect_eq_ok.mpr ⟨h.listed, ?_, ?_⟩⟩
  · exact (Tracker.knownIn_stored stored).trans decoded'
  · exact extended.objection?_eq_none part distinct clean h.objection?_eq_none

end Runner

theorem run_idle {r : Runner} {o : RunOptions} {w : World} {migrations : List Migration}
    {records : List MigrationRecord} (live : o.dryRun = false)
    (prepares : (w.run (r.prepare o)).1 = .ok (migrations, records))
    (nothing : o.target.select (pendingOf records migrations) = []) :
    ∃ es w', w.run (r.run o) = (.ok (Runner.reportOn migrations records []), w') ∧
      w'.events = w.events ++ es ∧ executionsIn es = [] ∧
      w'.database.trackingRows r.tracker.table = w.database.trackingRows r.tracker.table := by
  obtain ⟨result, w₁, ends, idles, -⟩ := Runner.prepare_ends r o w
  obtain rfl : result = .ok (migrations, records) := (congrArg Prod.fst ends).symm.trans prepares
  obtain ⟨es, leads, quiet⟩ := idles.leads
  obtain ⟨fs, w₂, concludes, same, leads', silent⟩ :=
    Runner.conclude_ends w₁ (Runner.reportOn migrations records [])
  refine ⟨es ++ fs, w₂, ?_, (leads.trans leads').events, ?_, same ▸ idles.rows⟩
  · rw [Runner.run_eq live, World.run_bind_ok ends, Runner.carryOut, nothing]
    exact concludes
  · rw [executionsIn_append, quiet, silent]
    rfl

/-- A run that succeeds leaves nothing to do for the same run, whatever it was forced to pass over:
    that one applies nothing, executes nothing and leaves every row as it is, and it reports the same
    apart from what it counts as applied before. -/
theorem second_run_idle (r : Runner) (o : RunOptions) (w w₁ : World) (report : RunReport)
    (live : o.dryRun = false) (target : o.target = .all ∨ ∃ id, o.target = .upTo id)
    (alone : r.source.LeavesAlone r.tracker.table) (calm : w.faults = [])
    (ran : w.run (r.run o) = (.ok report, w₁)) :
    let again := w₁.run (r.run o)
    again.1 = .ok
      { report with
        applied := []
        planned := []
        alreadyApplied := report.alreadyApplied + report.applied.length } ∧
      (∃ es, again.2.events = w₁.events ++ es ∧ executionsIn es = []) ∧
      again.2.database.trackingRows r.tracker.table =
        w₁.database.trackingRows r.tracker.table := by
  intro again
  obtain ⟨migrations, records, constrained, es, prepared, rfl, stored, leads, -⟩ :=
    Runner.whole_of_run live alone calm ran
  obtain ⟨records', extended, foreseen⟩ := prepared.prospect_applied stored
  have selected : r.selection o (w.database.trackingRows r.tracker.table) =
      o.target.select (pendingOf records migrations) := by
    rw [prepared.recorded.pendingOf_eq, Runner.selection_eq prepared.listed]
  have part : (r.selection o (w.database.trackingRows r.tracker.table)).Sublist migrations := by
    rw [selected]
    exact (RunTarget.select_sublist _ _).trans List.filter_sublist
  have calm₁ : w₁.faults = [] := leads.faults calm
  obtain ⟨fs, w₂, ends, events, quiet, kept⟩ := run_idle live
    ((Runner.prepare_foretold o stored.canMake calm₁).trans foreseen)
    (extended.select_eq_nil target selected)
  have result : again.1 = _ := congrArg Prod.fst ends
  have world : again.2 = w₂ := congrArg Prod.snd ends
  rw [result, world]
  refine ⟨congrArg Except.ok ?_, ⟨fs, events, quiet⟩, kept⟩
  exact extended.reportOn_eq part (Source.list_ascending prepared.listed).distinct

open Sample

/-- A forced run passes over a failed migration and applies another one. -/
theorem second_run_idle_forced :
    let failed : TrackingRow := (Stage.failed (.ofMicros 0) (.ofMicros 5) "no space").row first.id
    let db : Database := .holding ⟨true, [failed]⟩
    let r : Runner := ⟨.registry [first, second], ⟨.standard⟩⟩
    let o : RunOptions := { force := true, strictChecksums := true }
    let w := World.ticking db
    let w₁ := (w.run (r.run o)).2
    let report : RunReport := ⟨[second.id], [], [first.id], [], 0, false⟩
    (o.dryRun = false ∧ (o.target = .all ∨ ∃ id, o.target = .upTo id) ∧
      r.source.LeavesAlone r.tracker.table ∧ w.faults = [] ∧
      w.run (r.run o) = (.ok report, w₁)) ∧
    (w₁.run (r.run o)).1 = .ok ⟨[], [], [first.id], [], 1, false⟩ := by
  intro failed db r o w w₁ report
  have listed : r.source.list = .ok [first, second] := inOrder_of_ascending (by decide)
  have discovers : r.discover = Engine.ofExcept (.ok [first, second]) := by
    rw [Runner.discover, listed]
    rfl
  have applied : (w.run (r.run o)).1 = .ok report := by
    rw [Runner.run, discovers]
    decide +kernel
  have ran : w.run (r.run o) = (.ok report, w₁) := Prod.ext applied rfl
  have alone : r.source.LeavesAlone r.tracker.table :=
    Source.leavesAlone_silent listed (by decide) r.tracker.table
  exact ⟨⟨rfl, .inl rfl, alone, rfl, ran⟩,
    (second_run_idle r o w w₁ report rfl (.inl rfl) alone rfl ran).1⟩

end SchemaMigration
