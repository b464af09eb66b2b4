import SchemaMigration.Proofs.Retrying
import SchemaMigration.Proofs.Settling
import SchemaMigration.Proofs.Views

/-! # Retries of any migration

A retry looks at the state of one migration. Unless that is failed, nothing happens. A failed migration
goes back to in progress, its action is executed once, and the outcome is recorded where the migration is
in progress then. The two statements go by id and status, so that no other row changes, whatever state it
is in. A table that was made without constraints can have several rows of one id; they go through the
same statements. `retried` tells what becomes of each row.
-/

namespace SchemaMigration

open World

/-- A row after a move of all rows with an id and a status. -/
def TrackingRow.movedAt (id status : String) (now : Timestamp) (move : Move) (row : TrackingRow) :
    TrackingRow :=
  if row.isAt id status then move.row now row else row

namespace Migration

/-- What executing the forward action on its own comes to. -/
def verdict (m : Migration) : Except DbError Unit → Except EngineError Unit
  | .ok () => .ok ()
  | .error e => .error (.execution ⟨m.id, .up, .failed, e.message, []⟩)

/-- The move that records an outcome of the forward action. -/
def conclusion (m : Migration) : Except DbError Unit → Move
  | .ok () => .complete m.checksum
  | .error e => .fail e.message

/-- A row in which an outcome of the forward action is recorded. -/
def concluded (m : Migration) (start : Option Timestamp) (finish : Timestamp) (row : TrackingRow) :
    Except DbError Unit → TrackingRow
  | .ok () => ⟨row.id, some completedStatus, start, some finish, some m.checksum, none⟩
  | .error e => ⟨row.id, some failedStatus, start, some finish, row.checksum, some e.message⟩

/-- A row after a retry of a migration. A failed row of the migration begins anew and gets the outcome.
    One that is in progress gets it too, which takes several rows with one id. All other rows stay. -/
def retried (m : Migration) (start finish : Timestamp) (outcome : Except DbError Unit)
    (row : TrackingRow) : TrackingRow :=
  if row.isAt m.id.text failedStatus then m.concluded (some start) finish row outcome
  else if row.isAt m.id.text inProgressStatus then m.concluded row.startedAt finish row outcome
  else row

variable {m : Migration} {start finish : Timestamp} {outcome : Except DbError Unit}
variable {row : TrackingRow}

theorem conclusion_row (old : TrackingRow) :
    (m.conclusion outcome).row finish old = m.concluded old.startedAt finish old outcome := by
  cases outcome <;> rfl

/-- The statements of a retry, one after the other, make of a row what the retry does. -/
theorem retried_eq (m : Migration) (start finish : Timestamp) (outcome : Except DbError Unit)
    (row : TrackingRow) :
    (row.movedAt m.id.text failedStatus start .retry).movedAt m.id.text inProgressStatus finish
      (m.conclusion outcome) = m.retried start finish outcome row := by
  unfold retried TrackingRow.movedAt
  by_cases failed : row.isAt m.id.text failedStatus = true
  · have begun : (Move.retry.row start row).isAt m.id.text inProgressStatus = true :=
      TrackingRow.isAt_iff.mpr ⟨(TrackingRow.isAt_iff.mp failed).1, rfl⟩
    simp only [failed, if_true, begun, conclusion_row]
    cases outcome <;> rfl
  · simp only [failed, if_false, Bool.false_eq_true, conclusion_row]

end Migration

section
variable {w : World} {t : Tracker} {m : Migration} {constrained : Bool} {rows : List TrackingRow}

theorem moves_all {id : MigrationId} {status : String} (move : Move) (s : Time.Reading → Change)
    (stored : w.database.Stores t.table ⟨constrained, rows⟩)
    (begun : ∃ row ∈ rows, row.isAt id.text status = true)
    (updates : ∀ now table, (s now).apply table =
      .ok (table.update (·.isAt id.text status) (move.row (.ofReading now)))) :
    ∃ es, executionsIn es = [] ∧
      w.Attempts t.table ⟨constrained, rows⟩ (t.guarded id move.transition s) (.ok ())
        ⟨constrained, rows.map (·.movedAt id.text status (.ofReading (w.clock w.readings)) move)⟩
        1 es := by
  obtain ⟨k, affected⟩ := Nat.exists_eq_add_of_lt (List.countP_pos_iff.mpr begun)
  have applied : (s (w.clock w.readings)).apply ⟨constrained, rows⟩ = .ok
      (⟨constrained, rows.map (·.movedAt id.text status (.ofReading (w.clock w.readings)) move)⟩,
        k + 1) := by
    rw [updates, TrackingTable.update, affected, Nat.zero_add]
    rfl
  exact ⟨_, rfl, Tracker.guarded_attempts stored _ applied⟩

theorem moves_all_noted {id : MigrationId} {status : String} (move : Move) (s : Time.Reading → Change)
    {x : Engine Unit} {result : Except EngineError Unit} {level : Level} {text : String}
    (calm : w.faults = []) (stored : w.database.Stores t.table ⟨constrained, rows⟩)
    (begun : ∃ row ∈ rows, row.isAt id.text status = true)
    (updates : ∀ now table, (s now).apply table =
      .ok (table.update (·.isAt id.text status) (move.row (.ofReading now))))
    (notes : ∀ v : World, v.run x = (result, v.record (.noted level text))) :
    ∃ es w', w.run (t.guarded id move.transition s >>= fun _ => x) = (result, w') ∧
      w'.database.Stores t.table ⟨constrained,
        rows.map (·.movedAt id.text status (.ofReading (w.clock w.readings)) move)⟩ ∧
      w.LeadsTo 1 es w' ∧ executionsIn es = [] := by
  obtain ⟨es, quiet, moved⟩ := moves_all move s stored begun updates
  obtain ⟨w₁, ends, stored₁, leads⟩ := moved.calm calm
  refine ⟨_, _, (World.run_bind_ok ends _).trans (notes w₁), stored₁,
    leads.trans (w₁.leadsTo_record _), ?_⟩
  rw [executionsIn_append, quiet]
  rfl

/-- With no failing call, executing a migration that is in progress in some row comes to the outcome of
    its action, and records it in all of those rows. -/
theorem applyForward_concludes (calm : w.faults = [])
    (stored : w.database.Stores t.table ⟨constrained, rows⟩)
    (begun : ∃ row ∈ rows, row.isAt m.id.text inProgressStatus = true)
    (alone : m.up.LeavesAlone t.table) :
    ∃ outcome n es w', w.run (Runner.applyForward t m) = (m.verdict outcome, w') ∧
      w'.database.Stores t.table ⟨constrained, rows.map (·.movedAt m.id.text inProgressStatus
        (.ofReading (w.clock w.readings)) (m.conclusion outcome))⟩ ∧
      w.LeadsTo n es w' ∧ executionsIn es = [m.forward outcome] := by
  unfold Runner.applyForward
  obtain ⟨outcome, batches, w₁, runs, same, leads, sent⟩ := alone.executed w m.id .up _
  have executed : executionsIn (batches ++ [.performed m.id .up m.up outcome]) = [m.forward outcome] :=
    executionsIn_action sent m.id .up m.up outcome
  have kept : w₁.database.Stores t.table ⟨constrained, rows⟩ := same.trans stored
  have clock : w₁.clock w₁.readings = w.clock w.readings := by
    rw [leads.clock, leads.readings, Nat.add_zero]
  have calm₁ : w₁.faults = [] := leads.faults calm
  rw [runs, ← clock]
  cases outcome with
  | ok =>
      obtain ⟨es, w₂, ends, stored₂, leads₂, quiet⟩ := moves_all_noted (.complete m.checksum)
        (.complete m.id.text · m.checksum) calm₁ kept begun (fun _ _ => rfl)
        fun v => v.run_note .info ("Applied " ++ m.id.text)
      refine ⟨.ok (), _, _, w₂, ends, stored₂, leads.trans leads₂, ?_⟩
      rw [executionsIn_append, executed, quiet, List.append_nil]
  | error e =>
      obtain ⟨es, w₂, ends, stored₂, leads₂, quiet⟩ := moves_all_noted (.fail e.message)
        (.fail m.id.text · e.message) calm₁ kept begun (fun _ _ => rfl) fun v =>
          World.run_bind_ok
            (v.run_note .error ("Migration " ++ m.id.text ++ " failed: " ++ e.message))
            fun _ => throw (.execution ⟨m.id, .up, .failed, e.message, []⟩)
      refine ⟨.error e, _, _, w₂, ends, stored₂, leads.trans leads₂, ?_⟩
      rw [executionsIn_append, executed, quiet, List.append_nil]

end

theorem exists_isAt {rows : List TrackingRow} {id : MigrationId}
    (decodes : ∀ row ∈ rows, ∃ record, row.decode = .ok record) (s : MigrationStatus)
    (shown : stateIn rows id = s.toState) : ∃ row ∈ rows, row.isAt id.text s.text = true := by
  unfold stateIn at shown
  cases found : rows.find? (·.hasId id.text) with
  | none =>
      rw [found] at shown
      cases s <;> cases shown
  | some row =>
      rw [found] at shown
      have inside := List.mem_of_find?_eq_some found
      obtain ⟨record, decoded⟩ := decodes row inside
      have holds := TrackingRow.holds_of_decode decoded
      exact ⟨row, inside, TrackingRow.isAt_iff.mpr
        ⟨TrackingRow.hasId_iff.mp (List.find?_some found), (holds.status_iff s).mpr shown⟩⟩

theorem findMigration_listed {migrations : List Migration} (distinct : (idsOf migrations).Nodup)
    {m : Migration} (inside : m ∈ migrations) : findMigration m.id.text migrations = .ok m := by
  obtain ⟨other, inside', same, found⟩ := findMigration_ok (List.mem_map_of_mem inside)
  rw [found, List.inj_on_of_nodup_map distinct inside' inside same]

theorem findMigration_unlisted {migrations : List Migration} {id : String}
    (unlisted : ∀ m ∈ migrations, m.id.text ≠ id) :
    findMigration id migrations = .error (.notFound id) := by
  have missing : (migrations.find? fun m => m.id.text == id) = none := by
    rw [List.find?_eq_none]
    intro m inside same
    exact unlisted m inside (eq_of_beq same)
  rw [findMigration, missing]

namespace Runner

variable {r : Runner} {w : World} {migrations : List Migration} {m : Migration}

/-- What a retry does with a migration of the source once the table is there. -/
def retryListed (t : Tracker) (m : Migration) : Engine Unit := do
  let state ← t.state m.id.text
  if state ≠ .failed then throw (.invalidState m.id state .retry)
  t.retry m.id
  Engine.note .info ("Retrying " ++ m.id.text)
  applyForward t m

theorem retry_unlisted (listed : r.source.list = .ok migrations) {id : String}
    (unlisted : ∀ m ∈ migrations, m.id.text ≠ id) (w : World) :
    w.run (r.retry id) = (.error (.notFound id), w) := by
  unfold retry discover
  rw [listed, run_bind_ok (a := migrations) rfl, findMigration_unlisted unlisted]
  rfl

theorem retry_listed (listed : r.source.list = .ok migrations) (inside : m ∈ migrations) (w : World) :
    w.run (r.retry m.id.text) = w.run (r.tracker.ensure >>= fun _ => retryListed r.tracker m) := by
  have distinct : (idsOf migrations).Nodup := (Source.list_ascending listed).distinct
  unfold retry discover
  rw [listed, run_bind_ok (a := migrations) rfl, findMigration_listed distinct inside,
    run_bind_ok (a := m) rfl]
  rfl

section
variable {t : Tracker} {constrained : Bool} {rows : List TrackingRow} (calm : w.faults = [])
variable (stored : w.database.Stores t.table ⟨constrained, rows⟩)
variable (decodes : ∀ row ∈ rows, ∃ record, row.decode = .ok record)
include calm stored decodes

theorem state_looked (m : Migration) :
    ∃ w', w.run (t.state m.id.text) = (.ok (stateIn rows m.id), w') ∧
      w'.database.Stores t.table ⟨constrained, rows⟩ ∧
      w.LeadsTo 0 [t.lookedUp ⟨constrained, rows⟩ m.id.text] w' := by
  obtain ⟨record, looked, state⟩ := lookUp_of_decodes decodes m.id
  have looks := Tracker.state_attempts stored m.id.text
  rw [looked] at looks
  obtain ⟨w', ends, stored', leads⟩ := looks.calm calm
  exact ⟨w', state ▸ ends, stored', leads⟩

theorem retryListed_refused (unfailed : stateIn rows m.id ≠ .failed) :
    ∃ es w', w.run (retryListed t m) =
        (.error (.invalidState m.id (stateIn rows m.id) .retry), w') ∧
      w'.database.Stores t.table ⟨constrained, rows⟩ ∧ w.LeadsTo 0 es w' ∧ executionsIn es = [] := by
  obtain ⟨w', looks, stored', leads⟩ := state_looked calm stored decodes m
  refine ⟨_, w', ?_, stored', leads, rfl⟩
  unfold retryListed
  rw [run_bind_ok looks, if_pos unfailed]
  rfl

theorem retryListed_ends (failed : stateIn rows m.id = .failed) (alone : m.up.LeavesAlone t.table) :
    ∃ outcome n es w', w.run (retryListed t m) = (m.verdict outcome, w') ∧
      w'.database.Stores t.table ⟨constrained, rows.map (m.retried (.ofReading (w.clock w.readings))
        (.ofReading (w.clock (w.readings + 1))) outcome)⟩ ∧
      w.LeadsTo n es w' ∧ executionsIn es = [m.forward outcome] := by
  obtain ⟨w₁, looks, stored₁, leads₁⟩ := state_looked calm stored decodes m
  obtain ⟨row, inside, at_failed⟩ := exists_isAt decodes .failed failed
  obtain ⟨es₂, w₂, retries, stored₂, leads₂, quiet₂⟩ := moves_all_noted .retry (.restart m.id.text ·)
    (leads₁.faults calm) stored₁ ⟨row, inside, at_failed⟩ (fun _ _ => rfl)
    fun v => v.run_note .info ("Retrying " ++ m.id.text)
  -- The row that was failed is in progress by now.
  have begun : (Move.retry.row (.ofReading (w₁.clock w₁.readings)) row).isAt m.id.text
      inProgressStatus = true :=
    TrackingRow.isAt_iff.mpr ⟨(TrackingRow.isAt_iff.mp at_failed).1, rfl⟩
  have leads := leads₁.trans leads₂
  obtain ⟨outcome, n, es, w', applies, stored', leads', executed⟩ :=
    applyForward_concludes (leads.faults calm) stored₂
      ⟨_, List.mem_map.mpr ⟨row, inside, if_pos at_failed⟩, begun⟩ alone
  refine ⟨outcome, _, _, w', ?_, ?_, leads.trans leads', ?_⟩
  · have retries : w₁.run (t.retry m.id >>= fun _ => Engine.note .info ("Retrying " ++ m.id.text)) =
        (.ok (), w₂) := retries
    have goes_on := (run_bind_ok retries fun _ => applyForward t m).trans applies
    rw [bind_assoc] at goes_on
    unfold retryListed
    rw [run_bind_ok looks, failed]
    exact goes_on
  · have first : w₁.clock w₁.readings = w.clock w.readings := by
      rw [leads₁.clock, leads₁.readings, Nat.add_zero]
    have second : w₂.clock w₂.readings = w.clock (w.readings + 1) := by
      rw [leads.clock, leads.readings]
    rw [first, second, List.map_map] at stored'
    rwa [← funext (m.retried_eq _ _ outcome)]
  · rw [executionsIn_append, executed, executionsIn_append, quiet₂]
    rfl

end

end Runner

section
variable {rows : List TrackingRow} {records : List MigrationRecord} {m : Migration}

theorem drift?_current (recorded : Recorded rows records)
    (current : ∀ row ∈ rows, row.hasId m.id.text = true → row.checksum = some m.checksum) :
    drift? records m = none := by
  refine Option.eq_none_iff_forall_ne_some.mpr fun d drifts => ?_
  obtain ⟨record, found, -, c, checksum, different, -⟩ := drift?_found.mp drifts
  obtain ⟨row, inside, holds, own⟩ := recorded.holds found
  have same : some c = some m.checksum :=
    (holds.checksum.trans checksum).symm.trans (current row inside own)
  exact different (Option.some.inj same)

theorem Runner.validate_passes {r : Runner} {w : World} {migrations : List Migration}
    (listed : r.source.list = .ok migrations) (inside : m ∈ migrations)
    (reserved : w.database.Reserved r.tracker.table)
    (decodes : ∀ row ∈ w.database.trackingRows r.tracker.table, ∃ record, row.decode = .ok record)
    (current : ∀ row ∈ w.database.trackingRows r.tracker.table, row.hasId m.id.text = true →
      row.checksum = some m.checksum) (calm : w.faults = []) :
    ∃ mismatches, (w.run r.validate).1 = .ok mismatches ∧ ∀ d ∈ mismatches, d.id ≠ m.id := by
  obtain ⟨records, decoded⟩ := Tracker.decoded_of_decodes fun row sorted =>
    decodes row (List.mem_mergeSort.mp sorted)
  have known : r.tracker.knownIn w.database = .ok records := reserved.knownIn_eq.trans decoded
  obtain ⟨es, reports⟩ := validate_reads listed known calm
  refine ⟨_, congrArg Prod.fst reports, fun d among same => ?_⟩
  obtain ⟨other, inside', drifts⟩ := List.mem_filterMap.mp among
  have distinct : (idsOf migrations).Nodup := (Source.list_ascending listed).distinct
  obtain rfl : other = m :=
    List.inj_on_of_nodup_map distinct inside' inside ((drift?_own drifts).symm.trans same)
  rw [drift?_current (Tracker.recorded_of_list decoded) current] at drifts
  cases drifts

end

namespace Migration

variable {m : Migration} {row : TrackingRow}

theorem retried_id (m : Migration) (start finish : Timestamp) (outcome : Except DbError Unit)
    (row : TrackingRow) : (m.retried start finish outcome row).id = row.id := by
  unfold retried
  split
  · cases outcome <;> rfl
  · split
    · cases outcome <;> rfl
    · rfl

theorem decode_retried (decodes : ∃ record, row.decode = .ok record) (start finish : Time.Reading)
    (outcome : Except DbError Unit) :
    ∃ record, (m.retried (.ofReading start) (.ofReading finish) outcome row).decode = .ok record := by
  obtain ⟨record, decoded⟩ := decodes
  have own := (TrackingRow.holds_of_decode decoded).id
  have read (first : Timestamp) (instant : Time.Instant) (begun : first.toInstant = .ok instant) :
      ∃ record, (m.concluded (some first) (.ofReading finish) row outcome).decode = .ok record := by
    cases outcome with
    | ok => exact ⟨_, TrackingRow.decode_finished (s := .completed) own rfl rfl begun rfl⟩
    | error e => exact ⟨_, TrackingRow.decode_finished (s := .failed) own rfl rfl begun rfl⟩
  unfold retried
  split
  · exact read _ _ (Timestamp.toInstant_ofReading start)
  · split
    · obtain ⟨first, begun, instant⟩ := TrackingRow.start_of_decode decoded
      rw [begun]
      exact read first _ instant
    · exact ⟨record, decoded⟩

/-- After an action that succeeded, a row of the migration carries the current checksum, unless it was
    completed all along. -/
theorem checksum_retried (decodes : ∃ record, row.decode = .ok record)
    (own : row.hasId m.id.text = true) (uncompleted : row.isAt m.id.text completedStatus = false)
    (start finish : Timestamp) :
    (m.retried start finish (.ok ()) row).checksum = some m.checksum := by
  obtain ⟨record, decoded⟩ := decodes
  have status := (TrackingRow.holds_of_decode decoded).status
  have named := TrackingRow.hasId_iff.mp own
  have at_status : row.isAt m.id.text record.status.text = true :=
    TrackingRow.isAt_iff.mpr ⟨named, status⟩
  unfold retried
  cases known : record.status with
  | failed =>
      rw [known] at at_status
      have failed : row.isAt m.id.text failedStatus = true := at_status
      rw [if_pos failed]
      rfl
  | inProgress =>
      rw [known] at at_status
      have begun : row.isAt m.id.text inProgressStatus = true := at_status
      rw [if_pos begun]
      split <;> rfl
  | completed =>
      rw [known] at at_status
      cases at_status.symm.trans uncompleted

end Migration

/-- A retry is exact, on every table whose rows are records and with no failing call. Of an id that is
    not in the source, or whose state is not failed, nothing is executed and no row changes. A failed
    migration is executed once. A failed row of it begins anew and gets the outcome, and so does one in
    progress where the table has several rows of the id; every other row stays (`retried`). After a
    success, a check of the checksums does not find the migration, unless a further row of it was
    completed before. -/
theorem retry_exact (r : Runner) (w : World) (migrations : List Migration) (id : String)
    (listed : r.source.list = .ok migrations) (makeable : w.database.CanMake r.tracker.table)
    (reserved : w.database.Reserved r.tracker.table)
    (decodes : ∀ row ∈ w.database.trackingRows r.tracker.table, ∃ record, row.decode = .ok record)
    (alone : r.source.LeavesAlone r.tracker.table) (calm : w.faults = []) :
    let rows (w : World) := w.database.trackingRows r.tracker.table
    let retry := w.run (r.retry id)
    ∃ es, retry.2.events = w.events ++ es ∧
      ((∀ m ∈ migrations, m.id.text ≠ id) →
        retry.1 = .error (.notFound id) ∧ executionsIn es = [] ∧ rows retry.2 = rows w) ∧
      ∀ m ∈ migrations, m.id.text = id →
        (stateIn (rows w) m.id ≠ .failed →
          retry.1 = .error (.invalidState m.id (stateIn (rows w) m.id) .retry) ∧
          executionsIn es = [] ∧ rows retry.2 = rows w) ∧
        (stateIn (rows w) m.id = .failed → ∃ outcome,
          executionsIn es = [m.forward outcome] ∧ retry.1 = m.verdict outcome ∧
          rows retry.2 = (rows w).map (m.retried (.ofReading (w.clock w.readings))
            (.ofReading (w.clock (w.readings + 1))) outcome) ∧
          (outcome = .ok () → (∀ row ∈ rows w, row.isAt id completedStatus = false) →
            ∃ mismatches, (retry.2.run r.validate).1 = .ok mismatches ∧
              ∀ d ∈ mismatches, d.id ≠ m.id)) := by
  intro rows retry
  by_cases known : ∃ m ∈ migrations, m.id.text = id
  · obtain ⟨m, inside, rfl⟩ := known
    have distinct : (idsOf migrations).Nodup := (Source.list_ascending listed).distinct
    obtain ⟨constrained, es₁, w₁, makes, stored₁, leads₁, quiet₁⟩ :=
      Tracker.ensure_stores makeable reserved calm
    have begins : retry = w₁.run (Runner.retryListed r.tracker m) := by
      unfold retry
      rw [Runner.retry_listed listed inside, run_bind_ok makes]
    -- The source has no other migration with this id.
    have only {P : Migration → Prop} (own : P m) : ∀ other ∈ migrations, other.id.text = m.id.text →
        P other := by
      intro other inside' same
      obtain rfl := List.inj_on_of_nodup_map distinct inside' inside (MigrationId.ext_text same)
      exact own
    by_cases failed : stateIn (rows w) m.id = .failed
    · obtain ⟨outcome, n, es₂, w₂, ends, stored₂, leads₂, executed⟩ :=
        Runner.retryListed_ends (leads₁.faults calm) stored₁ decodes failed
          (alone migrations listed m inside .up m.up rfl)
      rw [begins, ends]
      refine ⟨es₁ ++ es₂, (leads₁.trans leads₂).events, fun unlisted => (unlisted m inside rfl).elim,
        only ⟨fun unfailed => (unfailed failed).elim, fun _ => ⟨outcome, ?_, rfl, ?_, ?_⟩⟩⟩
      · rw [executionsIn_append, quiet₁, executed]
        rfl
      · rw [leads₁.clock, leads₁.readings, Nat.add_zero] at stored₂
        exact stored₂.trackingRows_eq
      · rintro rfl uncompleted
        refine Runner.validate_passes listed inside (.inr ⟨_, stored₂⟩) ?_ ?_
          (leads₂.faults (leads₁.faults calm))
        all_goals rw [stored₂.trackingRows_eq]; intro row after
        · obtain ⟨old, before, rfl⟩ := List.mem_map.mp after
          exact Migration.decode_retried (decodes old before) _ _ _
        · obtain ⟨old, before, rfl⟩ := List.mem_map.mp after
          intro own
          rw [TrackingRow.hasId_iff, Migration.retried_id, ← TrackingRow.hasId_iff] at own
          exact Migration.checksum_retried (decodes old before) own (uncompleted old before) _ _
    · obtain ⟨es₂, w₂, ends, stored₂, leads₂, quiet₂⟩ :=
        Runner.retryListed_refused (leads₁.faults calm) stored₁ decodes failed
      rw [begins, ends]
      refine ⟨es₁ ++ es₂, (leads₁.trans leads₂).events, fun unlisted => (unlisted m inside rfl).elim,
        only ⟨fun _ => ⟨rfl, ?_, stored₂.trackingRows_eq⟩, fun same => (failed same).elim⟩⟩
      rw [executionsIn_append, quiet₁, quiet₂]
      rfl
  · have unlisted : ∀ m ∈ migrations, m.id.text ≠ id := fun m inside same => known ⟨m, inside, same⟩
    have refused : retry = (.error (.notFound id), w) := Runner.retry_unlisted listed unlisted w
    rw [refused]
    exact ⟨[], (List.append_nil _).symm, fun _ => ⟨rfl, rfl, rfl⟩,
      fun m inside same => (unlisted m inside same).elim⟩

open Sample

/-- A failed migration between one that is completed and one that is in progress. -/
theorem retry_exact_between :
    let lost : MigrationId := ⟨"009", by decide⟩
    let done : TrackingRow :=
      (Stage.completed (.ofMicros 0) (.ofMicros 3) (some first.checksum)).row first.id
    let failed : TrackingRow := (Stage.failed (.ofMicros 4) (.ofMicros 5) "no space").row second.id
    let busy : TrackingRow := (Stage.inProgress (.ofMicros 8)).row lost
    let db : Database := .holding ⟨true, [done, failed, busy]⟩
    let r : Runner := ⟨.registry [first, second], ⟨.standard⟩⟩
    let w := World.ticking db
    let rows (w : World) := w.database.trackingRows r.tracker.table
    let retry := w.run (r.retry "002")
    (r.source.list = .ok [first, second] ∧ w.database.CanMake r.tracker.table ∧
      w.database.Reserved r.tracker.table ∧
      (∀ row ∈ rows w, ∃ record, row.decode = .ok record) ∧
      r.source.LeavesAlone r.tracker.table ∧ w.faults = []) ∧
    ∃ outcome, retry.1 = second.verdict outcome ∧
      rows retry.2 = [done, second.concluded (some (.ofReading (.ofMicros 0)))
        (.ofReading (.ofMicros 1000000)) failed outcome, busy] := by
  intro lost done failed busy db r w rows retry
  have listed : r.source.list = .ok [first, second] := inOrder_of_ascending (by decide)
  have stored : w.database.Stores r.tracker.table ⟨true, [done, failed, busy]⟩ :=
    Database.Stores.holding _
  have shown : rows w = [done, failed, busy] := stored.trackingRows_eq
  have decodes : ∀ row ∈ rows w, ∃ record, row.decode = .ok record := by
    rw [shown]
    intro row inside
    simp only [List.mem_cons, List.not_mem_nil, or_false] at inside
    rcases inside with rfl | rfl | rfl <;> exact ⟨_, Stage.decode_row _ _⟩
  have alone : r.source.LeavesAlone r.tracker.table :=
    Source.leavesAlone_silent listed (by decide) r.tracker.table
  obtain ⟨es, -, -, each⟩ := retry_exact r w [first, second] "002" listed stored.canMake
    (.inr ⟨_, stored⟩) decodes alone rfl
  obtain ⟨outcome, -, result, after, -⟩ := (each second (by simp) rfl).2 (by
    change stateIn (rows w) second.id = _
    rw [shown]
    decide)
  refine ⟨⟨listed, stored.canMake, .inr ⟨_, stored⟩, decodes, alone, rfl⟩, outcome, result, ?_⟩
  change rows retry.2 = (rows w).map _ at after
  rw [after, shown]
  rfl

/-- In a table that was made without constraints, a migration has a row that failed and one that is in
    progress. A retry of it completes both. -/
theorem retry_of_doubled_row :
    let failed : TrackingRow := (Stage.failed (.ofMicros 0) (.ofMicros 5) "no space").row first.id
    let busy : TrackingRow := (Stage.inProgress (.ofMicros 8)).row first.id
    let db : Database := .holding ⟨false, [failed, busy]⟩
    let r : Runner := ⟨.registry [first], ⟨.standard⟩⟩
    let w := World.ticking db
    let rows (w : World) := w.database.trackingRows r.tracker.table
    let retry := w.run (r.retry "001")
    (r.source.list = .ok [first] ∧ (∀ row ∈ rows w, ∃ record, row.decode = .ok record) ∧
      r.source.LeavesAlone r.tracker.table ∧ w.faults = []) ∧
    stateIn (rows w) first.id = .failed ∧ retry.1 = .ok () ∧ busy ∈ rows w ∧ busy ∉ rows retry.2 := by
  intro failed busy db r w rows retry
  have listed : r.source.list = .ok [first] := inOrder_of_ascending (by decide)
  have stored : w.database.Stores r.tracker.table ⟨false, [failed, busy]⟩ := Database.Stores.holding _
  have shown : rows w = [failed, busy] := stored.trackingRows_eq
  have decodes : ∀ row ∈ rows w, ∃ record, row.decode = .ok record := by
    rw [shown]
    intro row inside
    rcases List.mem_pair.mp inside with rfl | rfl <;> exact ⟨_, Stage.decode_row _ _⟩
  have discovers : r.discover = Engine.ofExcept (.ok [first]) := by
    rw [Runner.discover, listed]
    rfl
  refine ⟨⟨listed, decodes, Source.leavesAlone_silent listed (by decide) _, rfl⟩, ?_, ?_, ?_, ?_⟩
  · rw [shown]
    decide
  · simp only [retry, Runner.retry, discovers]
    decide +kernel
  · rw [shown]
    exact List.mem_pair.mpr (.inr rfl)
  · simp only [rows, retry, Runner.retry, discovers]
    decide +kernel

end SchemaMigration
