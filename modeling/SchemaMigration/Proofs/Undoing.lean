import SchemaMigration.Proofs.Completion
import SchemaMigration.Proofs.Unwinding

/-! # Undoing a run

A rollback of as many migrations as a run has applied takes back these very migrations, the last one
first, and leaves the rows as they were before the run. It holds because the order of completion turns
the ascending order of application round: where times are the same, the greater id comes first.
-/

namespace SchemaMigration

open World

section
variable {clock : Nat → Time.Reading} {n : Nat} {todo : List Migration}

/-- Rows of migrations that are applied one after the other are in the opposite order of completion,
    as long as the clock does not go back. -/
theorem appliedRows_reversed (ascending : Ascending todo)
    (forward : ∀ i j, n ≤ i → i ≤ j → j < n + 2 * todo.length →
      (clock i).micros ≤ (clock j).micros) :
    (appliedRows clock n todo).Pairwise fun a b => ¬a.finishedNotBefore b = true := by
  induction todo generalizing n with
  | nil => exact .nil
  | cons m rest ih =>
      rw [List.length_cons] at forward
      obtain ⟨first, later⟩ := List.pairwise_cons.mp ascending
      refine .cons (fun row inside => ?_)
        (ih later fun i j after order before => forward i j (by omega) order (by omega))
      obtain ⟨other, among, k, after, bound, rfl⟩ := mem_appliedRows inside
      -- The later row was finished no earlier, and where the time is the same, its id is greater.
      have order := forward (n + 1) (k + 1) (by omega) (by omega) (by omega)
      rw [TrackingRow.finishedNotBefore_iff]
      rintro (⟨not_later, different⟩ | ⟨-, ids⟩)
      · have back : (clock (k + 1)).micros ≤ (clock (n + 1)).micros := of_decide_eq_true not_later
        exact different (congrArg Timestamp.finite (Int.le_antisymm order back))
      · have greater : other.id.text ≤ m.id.text := of_decide_eq_true ids
        exact String.not_le.mpr (first other among) greater

theorem completedRows_applied {rows : List TrackingRow} (ascending : Ascending todo)
    (forward : ∀ i j, n ≤ i → i ≤ j → j < n + 2 * todo.length →
      (clock i).micros ≤ (clock j).micros)
    (earlier : ∀ row ∈ rows, row.status = some completedStatus →
      ∀ i, n ≤ i → i < n + 2 * todo.length →
        Timestamp.Later (some (.ofReading (clock i))) row.finishedAt) :
    ∃ others, completedRows (rows ++ appliedRows clock n todo) =
      (appliedRows clock n todo).reverse ++ others := by
  have all_completed : ∀ row ∈ appliedRows clock n todo, row.status = some completedStatus := by
    intro row inside
    obtain ⟨m, -, k, -, -, rfl⟩ := mem_appliedRows inside
    rfl
  have perm : (completedRows (rows ++ appliedRows clock n todo)).Perm
      ((appliedRows clock n todo).reverse ++ rows.filter (·.status == some completedStatus)) := by
    refine (List.mergeSort_perm _ _).trans ?_
    rw [List.filter_append, List.filter_eq_self.mpr fun row inside =>
      beq_iff_eq.mpr (all_completed row inside)]
    exact List.perm_append_comm.trans ((List.reverse_perm _).symm.append_right _)
  -- A sorted list is fixed by what is in it, so it is enough to compare the new rows with one another
  -- and with the old ones.
  apply front_of_sorted (completedRows_sorted _) perm
  · rw [List.pairwise_reverse]
    exact appliedRows_reversed ascending forward
  · intro row inside old among
    obtain ⟨m, -, k, after, bound, rfl⟩ := mem_appliedRows (List.mem_reverse.mp inside)
    rw [List.mem_filter, beq_iff_eq] at among
    exact TrackingRow.not_notBefore_of_later
      (earlier old among.1 among.2 (k + 1) (by omega) bound)

theorem rowsWithout_applied {rows : List TrackingRow}
    (absent : ∀ m ∈ todo, rows.find? (·.hasId m.id.text) = none) (clock : Nat → Time.Reading)
    (n : Nat) {ids : List MigrationId} (same : ∀ id, id ∈ ids ↔ id ∈ idsOf todo) :
    rowsWithout ids (rows ++ appliedRows clock n todo) = rows := by
  rw [rowsWithout, List.filter_append]
  have kept : (rows.filter fun row => ids.all fun id => row.id ≠ some id.text) = rows := by
    apply List.filter_eq_self.mpr
    intro row inside
    rw [List.all_eq_true]
    intro id among
    obtain ⟨m, selected, rfl⟩ := List.mem_map.mp ((same id).mp among)
    have other := List.find?_eq_none.mp (absent m selected) row inside
    rw [TrackingRow.hasId_iff] at other
    exact decide_eq_true other
  have gone : ((appliedRows clock n todo).filter fun row =>
      ids.all fun id => row.id ≠ some id.text) = [] := by
    apply List.filter_eq_nil_iff.mpr
    intro row inside left
    obtain ⟨m, selected, k, -, -, rfl⟩ := mem_appliedRows inside
    have among : m.id ∈ ids := (same m.id).mpr (List.mem_map_of_mem selected)
    exact of_decide_eq_true (List.all_eq_true.mp left m.id among) rfl
  rw [kept, gone, List.append_nil]

end

section
variable {r : Runner} {o : RunOptions} {w w₁ : World}
variable {migrations : List Migration} {records : List MigrationRecord}

theorem run_prepared (live : o.dryRun = false) (alone : r.source.LeavesAlone r.tracker.table)
    (calm : w.faults = [])
    (prepared : r.Prepared o (w.database.trackingRows r.tracker.table) migrations records)
    (trackable : w.database.CanTrack r.tracker.table) :
    let selected := idsOf (r.selection o (w.database.trackingRows r.tracker.table))
    (∃ report, (w.run (r.run o)).1 = .ok report ∧ report.applied = selected) ∨
      ∃ done id text, (done ++ [id]) <+: selected ∧
        (w.run (r.run o)).1 = .error (.execution ⟨id, .up, .failed, text, done⟩) := by
  intro selected
  obtain ⟨w₀, prepares⟩ := prepared.succeeds trackable calm
  obtain ⟨-, result, new, n, es, constrained, w', runs, course, -⟩ :=
    run_undisturbed live alone calm (congrArg Prod.fst prepares)
  rw [runs]
  generalize executionsIn es = exs at course
  cases course with
  | whole => exact .inl ⟨_, rfl, rfl⟩
  | halted before m after e parts =>
      refine .inr ⟨idsOf before, m.id, DbError.message e, ⟨idsOf after, ?_⟩, rfl⟩
      simp only [selected, parts, idsOf, List.map_append, List.map_cons, List.append_assoc,
        List.singleton_append]

/-- After a run, a rollback of as many migrations as it applied has these in its plan, the last one
    first. -/
theorem plan_of_applied {todo : List Migration} {rows others : List TrackingRow}
    (decoded : (completedRows rows).mapM Tracker.decodeRow = .ok records)
    (front : (completedRows rows).map TrackingRow.id =
      ((idsOf todo).reverse.map fun id => some id.text) ++ others.map TrackingRow.id)
    (distinct : (migrations.map Migration.id).Nodup)
    (reversible : ∀ m ∈ todo, m ∈ migrations ∧ m.isReversible = true) :
    ∃ plan, (RollbackStrategy.steps todo.length).plan migrations rows
      (records.map MigrationRecord.id) = .ok plan ∧ idsOf plan = (idsOf todo).reverse := by
  have selected : (RollbackStrategy.steps todo.length).select (records.map MigrationRecord.id) =
      (idsOf todo).reverse := by
    have length : todo.length = ((idsOf todo).reverse.map fun id => some id.text).length := by
      simp [idsOf]
    apply MigrationId.some_text_injective.list_map
    rw [ids_of_decoded decoded] at front
    rw [RollbackStrategy.select, List.map_take, front, length, List.take_left]
  have available : ∀ id ∈ (idsOf todo).reverse,
      ∃ m ∈ migrations, m.id = id ∧ m.isReversible = true := by
    intro id inside
    obtain ⟨m, among, rfl⟩ := List.mem_map.mp (List.mem_reverse.mp inside)
    exact ⟨m, (reversible m among).1, rfl, (reversible m among).2⟩
  obtain ⟨plan, planned⟩ := (planned_iff distinct).mpr available
  refine ⟨plan, ?_, (ids_of_planned planned).1⟩
  rw [RollbackStrategy.plan, selected]
  exact planned

theorem planRollback_applied {clock : Nat → Time.Reading} {n : Nat} {todo : List Migration}
    {rows : List TrackingRow} {constrained : Bool} (calm : w.faults = [])
    (listed : r.source.list = .ok migrations)
    (stored : w.database.Stores r.tracker.table ⟨constrained, rows ++ appliedRows clock n todo⟩)
    (decodes : ∀ row ∈ rows, ∃ r, row.decode = .ok r) (ascending : Ascending todo)
    (forward : ∀ i j, n ≤ i → i ≤ j → j < n + 2 * todo.length →
      (clock i).micros ≤ (clock j).micros)
    (earlier : ∀ row ∈ rows, row.status = some completedStatus →
      ∀ i, n ≤ i → i < n + 2 * todo.length →
        Timestamp.Later (some (.ofReading (clock i))) row.finishedAt)
    (reversible : ∀ m ∈ todo, m ∈ migrations ∧ m.isReversible = true) :
    ∃ plan es, w.run (r.planRollback (.steps todo.length)) = (.ok plan, { w with events := es }) ∧
      idsOf plan = (idsOf todo).reverse := by
  have present : w.database.trackingRows r.tracker.table = rows ++ appliedRows clock n todo :=
    stored.trackingRows_eq
  have legible := decodes_applied decodes clock n todo
  obtain ⟨completed, decoded⟩ := Tracker.decoded_of_decodes fun row inside =>
    legible row (mem_completedRows.mp inside).1
  obtain ⟨others, sorted⟩ := completedRows_applied ascending forward earlier
  have front := congrArg (List.map TrackingRow.id) sorted
  rw [List.map_append, List.map_reverse, ids_appliedRows, ← List.map_reverse] at front
  obtain ⟨plan, planned, ids⟩ := plan_of_applied decoded front
    (Source.list_ascending listed).distinct reversible
  rw [← present] at legible decoded planned
  obtain ⟨es, plans⟩ := planRollback_reads calm listed (.inr ⟨_, stored⟩) legible decoded
    (.steps todo.length)
  rw [planned] at plans
  exact ⟨plan, es, plans, ids⟩

theorem rollback_whole {strategy : RollbackStrategy} {plan : List Migration} {constrained : Bool}
    {rows : List TrackingRow} (plans : w.run (r.planRollback strategy) = (.ok plan, w₁))
    (stored : w₁.database.Stores r.tracker.table ⟨constrained, rows⟩)
    (alone : r.source.LeavesAlone r.tracker.table) (calm : w.faults = [])
    (succeeds : ∀ es, (w.run (r.rollback strategy false)).2.events = w.events ++ es →
      ∀ x ∈ executionsIn es, x.outcome = .ok ()) :
    ∃ w', w.run (r.rollback strategy false) = (.ok (.of (idsOf plan)), w') ∧
      w'.database.Stores r.tracker.table ⟨constrained, rowsWithout (idsOf plan) rows⟩ ∧
      w'.faults = [] := by
  obtain ⟨ended, done, rest, es, w', ends, ⟨parts, exs, ran, executed, -, halts⟩, stored', leads⟩ :=
    rollback_ends plans stored alone
  have outcomes : ∀ x ∈ ran, x.outcome = .ok () := by
    intro x inside
    apply succeeds es
    · rw [ends, leads.events]
    · rw [executed]
      exact List.mem_append_right exs inside
  cases halts with
  | failed => cases outcomes _ List.mem_cons_self
  | undeleted down rest e struck => exact (struck calm).elim
  | finished =>
      rw [List.append_nil] at parts
      subst parts
      exact ⟨w', ends, stored', leads.faults calm⟩

end

/-- A rollback of as many migrations as a run has applied undoes the run, where its times are later than
    those of the old completed rows and never decrease, and every reverse action is there and succeeds:
    it takes back what was applied in the opposite order, the rows are those from before the run, and
    the same run selects the same migrations again. -/
theorem rollback_undoes_run (r : Runner) (o : RunOptions) (w w₁ : World) (report : RunReport)
    (live : o.dryRun = false) (alone : r.source.LeavesAlone r.tracker.table) (calm : w.faults = [])
    (ran : w.run (r.run o) = (.ok report, w₁))
    (earlier : ∀ row ∈ w.database.trackingRows r.tracker.table, row.status = some completedStatus →
      ∀ i, w.readings ≤ i → i < w₁.readings →
        Timestamp.Later (some (.ofReading (w.clock i))) row.finishedAt)
    (forward : ∀ i j, w.readings ≤ i → i ≤ j → j < w₁.readings →
      (w.clock i).micros ≤ (w.clock j).micros)
    (reversible : ∀ migrations, r.source.list = .ok migrations →
      ∀ m ∈ migrations, m.id ∈ report.applied → m.isReversible = true)
    (succeeds : ∀ es,
      (w₁.run (r.rollback (.steps report.applied.length) false)).2.events = w₁.events ++ es →
        ∀ x ∈ executionsIn es, x.outcome = .ok ()) :
    let rows := w.database.trackingRows r.tracker.table
    let result := (w₁.run (r.rollback (.steps report.applied.length) false)).1
    let w₂ := (w₁.run (r.rollback (.steps report.applied.length) false)).2
    result = .ok ⟨report.applied.reverse, [], false⟩ ∧
      w₂.database.trackingRows r.tracker.table = rows ∧
      idsOf (r.selection o rows) = report.applied ∧
      ((∃ again, (w₂.run (r.run o)).1 = .ok again ∧ again.applied = report.applied) ∨
        ∃ done id text, (done ++ [id]) <+: report.applied ∧
          (w₂.run (r.run o)).1 = .error (.execution ⟨id, .up, .failed, text, done⟩)) := by
  intro rows result w₂
  obtain ⟨migrations, records, constrained, es, prepared, same, stored, leads, -⟩ :=
    Runner.whole_of_run live alone calm ran
  let todo := r.selection o rows
  have applied : report.applied = idsOf todo := congrArg RunReport.applied same
  rw [leads.readings] at earlier forward
  have count : report.applied.length = todo.length := by rw [applied, idsOf, List.length_map]
  have calm₁ : w₁.faults = [] := leads.faults calm
  have known : ∀ m ∈ todo, m ∈ migrations ∧ m.isReversible = true := by
    intro m inside
    obtain ⟨-, ms, listed, among⟩ := Runner.selection_source inside
    obtain rfl : ms = migrations := Except.ok.inj (listed.symm.trans prepared.listed)
    exact ⟨among, reversible ms listed m among (applied ▸ List.mem_map_of_mem inside)⟩
  obtain ⟨plan, fs, plans, ids⟩ := planRollback_applied calm₁ prepared.listed stored prepared.decodes
    (r.selection_ascending o rows) forward earlier known
  rw [← count] at plans
  obtain ⟨w', ends, stored', calm'⟩ := rollback_whole plans stored alone calm₁ succeeds
  have back : rowsWithout (idsOf plan) (rows ++ appliedRows w.clock w.readings todo) = rows := by
    apply rowsWithout_applied fun m inside => (Runner.selection_source inside).1
    intro id
    rw [ids, List.mem_reverse]
  rw [back] at stored'
  have undone : w'.database.trackingRows r.tracker.table = rows := stored'.trackingRows_eq
  simp only [result, w₂, ends]
  refine ⟨?_, undone, applied.symm, ?_⟩
  · rw [ids, ← applied]
    rfl
  · -- The rows are those from before the run, so the next run is prepared as the first one was.
    have prepared' : r.Prepared o (w'.database.trackingRows r.tracker.table) migrations records := by
      rw [undone]
      exact prepared
    have again := run_prepared live alone calm' prepared' (.inl ⟨_, stored'⟩)
    rwa [undone, ← applied] at again

/-- One of three migrations is completed, and the other two are applied at one time. -/
theorem rollback_undoes_run_tied :
    let first := Sample.first.withDown "d"
    let second := Sample.second.withDown "e"
    let third := Sample.third.withDown "f"
    let old : TrackingRow :=
      (Stage.completed (.ofMicros 0) (.ofMicros 5) (some first.checksum)).row first.id
    let db : Database := .holding ⟨true, [old]⟩
    let r : Runner := ⟨.registry [first, second, third], ⟨.standard⟩⟩
    let o : RunOptions := {}
    let w := World.start db fun _ => .ofMicros 1000000
    let w₁ := (w.run (r.run o)).2
    let report : RunReport := ⟨[second.id, third.id], [], [], [], 1, false⟩
    let undoing := r.rollback (.steps 2) false
    let w₂ := (w₁.run undoing).2
    (o.dryRun = false ∧ r.source.LeavesAlone r.tracker.table ∧ w.faults = [] ∧
      w.run (r.run o) = (.ok report, w₁) ∧
      (∀ row ∈ w.database.trackingRows r.tracker.table, row.status = some completedStatus →
        ∀ i, w.readings ≤ i → i < w₁.readings →
          Timestamp.Later (some (.ofReading (w.clock i))) row.finishedAt) ∧
      (∀ i j, w.readings ≤ i → i ≤ j → j < w₁.readings →
        (w.clock i).micros ≤ (w.clock j).micros) ∧
      (∀ migrations, r.source.list = .ok migrations →
        ∀ m ∈ migrations, m.id ∈ report.applied → m.isReversible = true) ∧
      ∀ es, (w₁.run undoing).2.events = w₁.events ++ es → ∀ x ∈ executionsIn es, x.outcome = .ok ()) ∧
    (w₁.run undoing).1 = .ok ⟨[third.id, second.id], [], false⟩ ∧
      w₂.database.trackingRows r.tracker.table = [old] ∧
      idsOf (r.selection o [old]) = [second.id, third.id] := by
  intro first second third old db r o w w₁ report undoing w₂
  have listed : r.source.list = .ok [first, second, third] := inOrder_of_ascending (by decide)
  have only : ∀ migrations, r.source.list = .ok migrations → migrations = [first, second, third] :=
    fun migrations same => Except.ok.inj (same.symm.trans listed)
  have discovers : r.discover = Engine.ofExcept (.ok [first, second, third]) := by
    rw [Runner.discover, listed]
    rfl
  have applied : (w.run (r.run o)).1 = .ok report := by
    rw [Runner.run, discovers]
    decide +kernel
  have ran : w.run (r.run o) = (.ok report, w₁) := Prod.ext applied rfl
  have alone : r.source.LeavesAlone r.tracker.table :=
    Source.leavesAlone_silent listed (by decide) r.tracker.table
  have rows : w.database.trackingRows r.tracker.table = [old] :=
    (Database.Stores.holding ⟨true, [old]⟩).trackingRows_eq
  have earlier : ∀ row ∈ w.database.trackingRows r.tracker.table,
      row.status = some completedStatus → ∀ i, w.readings ≤ i → i < w₁.readings →
        Timestamp.Later (some (.ofReading (w.clock i))) row.finishedAt := by
    rw [rows]
    intro row inside _ i _ _
    obtain rfl := List.mem_singleton.mp inside
    have different : Timestamp.ofReading (.ofMicros 1000000) ≠ .ofReading (.ofMicros 5) := by decide
    exact ⟨rfl, different⟩
  have forward : ∀ i j, w.readings ≤ i → i ≤ j → j < w₁.readings →
      (w.clock i).micros ≤ (w.clock j).micros := fun _ _ _ _ _ => Int.le_refl _
  have reversible : ∀ migrations, r.source.list = .ok migrations →
      ∀ m ∈ migrations, m.id ∈ report.applied → m.isReversible = true := by
    intro migrations same m inside _
    rw [only migrations same] at inside
    simp only [List.mem_cons, List.not_mem_nil, or_false] at inside
    obtain rfl | rfl | rfl := inside <;> rfl
  have sure : ∀ migrations, r.source.list = .ok migrations → ∀ m ∈ migrations, ∀ a, m.down = some a →
      ∀ w : World, (w.perform m.id .down a).1 = .ok () := by
    intro migrations same m inside a down w
    rw [only migrations same] at inside
    simp only [List.mem_cons, List.not_mem_nil, or_false] at inside
    obtain rfl | rfl | rfl := inside <;> cases down <;> rfl
  have succeeds : ∀ es, (w₁.run undoing).2.events = w₁.events ++ es →
      ∀ x ∈ executionsIn es, x.outcome = .ok () :=
    fun es events => rollback_outcomes alone sure events
  obtain ⟨result, restored, selected, -⟩ :=
    rollback_undoes_run r o w w₁ report rfl alone rfl ran earlier forward reversible succeeds
  rw [rows] at restored selected
  exact ⟨⟨rfl, alone, rfl, ran, earlier, forward, reversible, succeeds⟩, result, restored, selected⟩

end SchemaMigration
