import SchemaMigration.Proofs.Commands
import SchemaMigration.Proofs.Precedence
import SchemaMigration.Proofs.Unwinding

/-! # Exit codes and printed progress

What the exit code and the output of a command say about what it did. The result of a run or a rollback
accounts for every action that was executed (`Accounts`): it lists those that succeeded, whether in a
report or in the error of the one that failed. The exit code and the printed lines are read off that
result, and the same ids are read off the rows before and after it.
-/

namespace SchemaMigration

open World

/-- The ids of the executions that succeeded, in order. -/
def succeededIds (exs : List Execution) : List MigrationId :=
  (exs.filter (·.outcome.toBool)).map Execution.id

def Execution.Failed (x : Execution) : Prop :=
  ∃ e, x.outcome = .error e

/-- A result accounts for the executions behind it. All but the last one succeeded, and the last one
    failed exactly where the result is an execution error; the ids of the others are in the result. -/
inductive Accounts (d : Direction) : List Execution → Except EngineError (List MigrationId) → Prop where
  | refused (e : EngineError) (early : ∀ failure, e ≠ .execution failure) : Accounts d [] (.error e)
  | whole (exs : List Execution) (succeeded : ∀ x ∈ exs, x.outcome = .ok ()) :
      Accounts d exs (.ok (exs.map Execution.id))
  | halted (exs : List Execution) (x : Execution) (e : DbError) (state : MigrationState)
      (succeeded : ∀ x ∈ exs, x.outcome = .ok ()) (failed : x.outcome = .error e) :
      Accounts d (exs ++ [x])
        (.error (.execution ⟨x.id, d, state, e.message, exs.map Execution.id⟩))

theorem succeededIds_of_all {exs : List Execution} (h : ∀ x ∈ exs, x.outcome = .ok ()) :
    succeededIds exs = exs.map Execution.id := by
  rw [succeededIds, List.filter_eq_self.mpr]
  intro x inside
  rw [h x inside]
  rfl

theorem succeededIds_halted {exs : List Execution} {x : Execution}
    (h : ∀ x ∈ exs, x.outcome = .ok ()) (failed : x.Failed) :
    succeededIds (exs ++ [x]) = exs.map Execution.id := by
  obtain ⟨e, fails⟩ := failed
  rw [← succeededIds_of_all h]
  simp [succeededIds, fails, Except.toBool]

theorem not_failed_of_all {exs : List Execution} (h : ∀ x ∈ exs, x.outcome = .ok ()) :
    ¬∃ x ∈ exs, x.Failed := by
  rintro ⟨x, inside, e, fails⟩
  cases (h x inside).symm.trans fails

variable {d : Direction} {exs : List Execution} {ids : List MigrationId}
variable {result : Except EngineError (List MigrationId)}

theorem Accounts.failed_iff (h : Accounts d exs result) :
    (∃ x ∈ exs, x.Failed) ↔ ∃ failure, result = .error (.execution failure) := by
  cases h with
  | refused e early =>
      refine ⟨fun ⟨x, inside, _⟩ => (List.not_mem_nil inside).elim, fun ⟨failure, same⟩ => ?_⟩
      exact (early failure (Except.error.inj same)).elim
  | whole exs succeeded =>
      exact ⟨fun failed => (not_failed_of_all succeeded failed).elim, fun ⟨_, same⟩ => nomatch same⟩
  | halted exs x e state succeeded failed =>
      exact ⟨fun _ => ⟨_, rfl⟩, fun _ => ⟨x, List.mem_append_right _ List.mem_cons_self, e, failed⟩⟩

theorem Accounts.of_ok (h : Accounts d exs (.ok ids)) : ids = succeededIds exs := by
  cases h with
  | whole exs succeeded => exact (succeededIds_of_all succeeded).symm

theorem Accounts.of_execution {failure : ExecutionFailure}
    (h : Accounts d exs (.error (.execution failure))) :
    failure.direction = d ∧ failure.completed = succeededIds exs := by
  cases h with
  | refused e early => exact (early failure rfl).elim
  | halted exs x e state succeeded failed =>
      exact ⟨rfl, (succeededIds_halted succeeded ⟨e, failed⟩).symm⟩

def HasCompleted (rows : List TrackingRow) (id : MigrationId) : Prop :=
  ∃ row ∈ rows, row.id = some id.text ∧ row.status = some completedStatus

def HasNone (rows : List TrackingRow) (id : MigrationId) : Prop :=
  ∀ row ∈ rows, row.id ≠ some id.text

theorem HasNone.not_completed {rows : List TrackingRow} {id : MigrationId} (h : HasNone rows id) :
    ¬HasCompleted rows id :=
  fun ⟨row, present, own, _⟩ => h row present own

section
variable {clock : Nat → Time.Reading} {n : Nat} {migrations todo : List Migration}
variable {records : List MigrationRecord} {rows new : List TrackingRow}
variable {ended : Except EngineError RunReport}

theorem map_forward_ids (todo : List Migration) :
    (todo.map (·.forward (.ok ()))).map Execution.id = idsOf todo := by
  rw [List.map_map]
  rfl

theorem forward_succeeded (todo : List Migration) :
    ∀ x ∈ todo.map (·.forward (.ok ())), x.outcome = .ok () := by
  intro x inside
  obtain ⟨m, -, rfl⟩ := List.mem_map.mp inside
  rfl

theorem Undisturbed.accounts (h : Undisturbed clock n migrations records todo ended new exs) :
    Accounts .up exs (ended.map RunReport.applied) := by
  cases h with
  | whole =>
      rw [← map_forward_ids]
      exact .whole _ (forward_succeeded todo)
  | halted before m after e parts =>
      rw [← map_forward_ids]
      exact .halted _ (m.forward (.error e)) e .failed (forward_succeeded before) rfl

theorem mem_applied_iff {before : List Migration} {rest : List TrackingRow}
    (fresh : ∀ m ∈ before, rows.find? (·.hasId m.id.text) = none)
    (unfinished : ∀ row ∈ rest, row.status ≠ some completedStatus) (id : MigrationId) :
    id ∈ idsOf before ↔
      HasNone rows id ∧ HasCompleted (rows ++ (appliedRows clock n before ++ rest)) id := by
  constructor
  · intro inside
    obtain ⟨m, among, rfl⟩ := List.mem_map.mp inside
    refine ⟨fun row present own => ?_, ?_⟩
    · exact List.find?_eq_none.mp (fresh m among) row present (TrackingRow.hasId_iff.mpr own)
    · have known : some m.id.text ∈ (appliedRows clock n before).map TrackingRow.id := by
        rw [ids_appliedRows]
        exact List.mem_map_of_mem inside
      obtain ⟨row, added, own⟩ := List.mem_map.mp known
      refine ⟨row, List.mem_append_right _ (List.mem_append_left _ added), own, ?_⟩
      obtain ⟨_, _, _, _, _, rfl⟩ := mem_appliedRows added
      rfl
  · rintro ⟨absent, row, present, own, completed⟩
    rcases List.mem_append.mp present with old | added
    · exact (absent row old own).elim
    rcases List.mem_append.mp added with applied | left
    · obtain ⟨m, among, k, -, -, rfl⟩ := mem_appliedRows applied
      have same : m.id = id := MigrationId.some_text_injective own
      rw [← same]
      exact List.mem_map_of_mem among
    · exact (unfinished row left completed).elim

theorem Undisturbed.report (h : Undisturbed clock n migrations records todo ended new exs)
    (report : RunReport) (succeeds : ended = .ok report) :
    ∃ records, report = Runner.reportOn migrations records report.applied := by
  cases h with
  | whole =>
      obtain rfl := Except.ok.inj succeeds
      exact ⟨records, rfl⟩
  | halted => cases succeeds

/-- What an `Undisturbed` run achieved is a first part of what it had selected. -/
theorem Undisturbed.achieved (h : Undisturbed clock n migrations records todo ended new exs) :
    ∃ before after rest, todo = before ++ after ∧ succeededIds exs = idsOf before ∧
      new = appliedRows clock n before ++ rest ∧ ∀ row ∈ rest, row.status ≠ some completedStatus := by
  cases h with
  | whole =>
      refine ⟨todo, [], [], (List.append_nil _).symm, ?_, (List.append_nil _).symm, by simp⟩
      rw [succeededIds_of_all (forward_succeeded todo), map_forward_ids]
  | halted before m after e parts =>
      refine ⟨before, m :: after, _, parts, ?_, rfl, fun row last => ?_⟩
      · rw [succeededIds_halted (forward_succeeded before) ⟨e, rfl⟩, map_forward_ids]
      · obtain rfl := List.mem_singleton.mp last
        exact (by decide : some "failed" ≠ some completedStatus)

end

theorem not_blocked {o : RunOptions} {rows : List TrackingRow}
    (clean : o.force = true ∨ ∀ row ∈ rows, row.state.isDirty = false) :
    ¬(o.force = false ∧ ∃ row ∈ rows, row.state.isDirty = true) := by
  rintro ⟨unforced, row, present, dirty⟩
  rcases clean with forced | clean
  · cases unforced.symm.trans forced
  · cases (clean row present).symm.trans dirty

theorem Barred.dirty_iff {s : Source} {o : RunOptions} {rows : List TrackingRow} {e : EngineError}
    {migrations : List Migration} (h : Barred s o rows e) (listed : s.list = .ok migrations)
    (readable : ∀ row ∈ rows, ∃ r, row.decode = .ok r) :
    (∃ id state dirty, e = .dirtyState id state dirty) ↔
      o.force = false ∧ ∃ row ∈ rows, row.state.isDirty = true := by
  cases h with
  | unlisted fault fails => cases fails.symm.trans listed
  | corrupt before row after fault _ sorted _ unreadable =>
      have inside : row ∈ rows.mergeSort TrackingRow.idNotAfter :=
        sorted ▸ List.mem_append_right before List.mem_cons_self
      obtain ⟨r, decoded⟩ := readable row (List.mem_mergeSort.mp inside)
      cases decoded.symm.trans unreadable
  | dirty first rest id ids _ _ unforced sorted own told =>
      refine ⟨fun _ => ⟨unforced, first, ?_⟩, fun _ => ⟨_, _, _, rfl⟩⟩
      have inside : first ∈ (rows.mergeSort TrackingRow.idNotAfter).filter (·.state.isDirty) :=
        sorted ▸ List.mem_cons_self
      obtain ⟨present, dirty⟩ := List.mem_filter.mp inside
      exact ⟨List.mem_mergeSort.mp present, dirty⟩
  | astray id migrations listed readable clean target unknown =>
      exact ⟨fun ⟨_, _, _, same⟩ => (nomatch same), fun dirty => (not_blocked clean dirty).elim⟩
  | changed before m after checksum listed readable clean =>
      exact ⟨fun ⟨_, _, _, same⟩ => (nomatch same), fun dirty => (not_blocked clean dirty).elim⟩

/-- What the result of a run says of its executions, of the rows before it and of those after it. -/
structure RunAccount (o : RunOptions) (migrations : List Migration) (rows rows' : List TrackingRow)
    (result : Except EngineError RunReport) (exs : List Execution) : Prop where
  accounts : Accounts .up exs (result.map RunReport.applied)
  report : ∀ report, result = .ok report →
    ∃ records, report = Runner.reportOn migrations records report.applied
  dirty_iff : (∃ id state dirty, result = .error (.dirtyState id state dirty)) ↔
    o.force = false ∧ ∃ row ∈ rows, row.state.isDirty = true
  kept : (∃ id state dirty, result = .error (.dirtyState id state dirty)) → rows' = rows
  distinct : (succeededIds exs).Nodup
  gained : ∀ id, id ∈ succeededIds exs ↔ HasNone rows id ∧ HasCompleted rows' id

theorem Barred.account {s : Source} {o : RunOptions} {rows : List TrackingRow} {e : EngineError}
    {migrations : List Migration} (h : Barred s o rows e) (listed : s.list = .ok migrations)
    (readable : ∀ row ∈ rows, ∃ r, row.decode = .ok r) :
    RunAccount o migrations rows rows (.error e) [] where
  accounts := .refused e fun failure same => by cases same; cases h
  report := fun report same => nomatch same
  dirty_iff := by
    simp only [Except.error.injEq]
    exact h.dirty_iff listed readable
  kept := fun _ => rfl
  distinct := List.nodup_nil
  gained := fun id =>
    ⟨fun inside => (List.not_mem_nil inside).elim, fun both => (both.1.not_completed both.2).elim⟩

theorem Undisturbed.account {o : RunOptions} {clock : Nat → Time.Reading} {n : Nat}
    {migrations todo : List Migration} {records : List MigrationRecord} {rows new : List TrackingRow}
    {ended : Except EngineError RunReport}
    (h : Undisturbed clock n migrations records todo ended new exs)
    (clean : o.force = true ∨ ∀ row ∈ rows, row.state.isDirty = false) (distinct : (idsOf todo).Nodup)
    (fresh : ∀ m ∈ todo, rows.find? (·.hasId m.id.text) = none) :
    RunAccount o migrations rows (rows ++ new) ended exs := by
  have other : ¬∃ id state dirty, ended = .error (.dirtyState id state dirty) := by
    rintro ⟨id, state, dirty, rfl⟩
    cases h
  obtain ⟨before, after, rest, parts, achieved, added, unfinished⟩ := h.achieved
  refine ⟨h.accounts, h.report, iff_of_false other (not_blocked clean),
    fun dirty => (other dirty).elim, ?_, fun id => ?_⟩
  · rw [achieved]
    exact distinct.sublist ((parts ▸ List.sublist_append_left before after).map Migration.id)
  · rw [achieved, added]
    refine mem_applied_iff (fun m among => fresh m ?_) unfinished id
    exact parts ▸ List.mem_append_left after among

namespace Runner

variable {r : Runner} {o : RunOptions} {w : World} {migrations : List Migration}

/-- A run that is not dry is barred and does nothing, or it takes its course. -/
theorem run_splits (live : o.dryRun = false) (listed : r.source.list = .ok migrations)
    (reserved : w.database.Reserved r.tracker.table) (makeable : w.database.CanMake r.tracker.table)
    (alone : r.source.LeavesAlone r.tracker.table) (calm : w.faults = []) :
    let rows := w.database.trackingRows r.tracker.table
    ∃ result es w', w.run (r.run o) = (result, w') ∧ w'.events = w.events ++ es ∧
      ((∃ e, result = .error e ∧ Barred r.source o rows e ∧ executionsIn es = [] ∧
          w'.database.trackingRows r.tracker.table = rows) ∨
        ∃ records new, Unbarred r.source o rows migrations ∧
          Undisturbed w.clock w.readings migrations records (r.selection o rows) result new
            (executionsIn es) ∧
          w'.database.trackingRows r.tracker.table = rows ++ new) := by
  intro rows
  cases found : r.prospect o w.database with
  | error e =>
      obtain ⟨w', runs, idles, -⟩ := live_run_barred live makeable calm found
      obtain ⟨es, leads, quiet⟩ := idles.leads
      exact ⟨_, es, w', runs, leads.events,
        .inl ⟨e, rfl, (prospect_eq_error reserved).mp found, quiet, idles.rows⟩⟩
  | ok prepared =>
      obtain ⟨migrations', records⟩ := prepared
      have unbarred := (prospect_eq_unbarred reserved).mp ⟨records, found⟩
      obtain rfl : migrations' = migrations := Except.ok.inj (unbarred.listed.symm.trans listed)
      have foretold := prepare_foretold (r := r) o makeable calm
      rw [found] at foretold
      obtain ⟨-, result, new, n, es, constrained, w', runs, course, stored, leads, -⟩ :=
        run_undisturbed live alone calm foretold
      exact ⟨result, es, w', runs, leads.events,
        .inr ⟨records, new, unbarred, course, stored.trackingRows_eq⟩⟩

/-- What a run that is not dry comes to accounts for its executions and for the rows that it left. -/
theorem run_accounts (live : o.dryRun = false) (listed : r.source.list = .ok migrations)
    (readable : ∀ row ∈ w.database.trackingRows r.tracker.table, ∃ record, row.decode = .ok record)
    (reserved : w.database.Reserved r.tracker.table) (makeable : w.database.CanMake r.tracker.table)
    (alone : r.source.LeavesAlone r.tracker.table) (calm : w.faults = []) :
    ∃ result es w', w.run (r.run o) = (result, w') ∧ w'.events = w.events ++ es ∧
      RunAccount o migrations (w.database.trackingRows r.tracker.table)
        (w'.database.trackingRows r.tracker.table) result (executionsIn es) := by
  obtain ⟨result, es, w', runs, events, ⟨e, rfl, barred, quiet, kept⟩ |
    ⟨records, new, unbarred, course, added⟩⟩ := run_splits live listed reserved makeable alone calm
  · refine ⟨_, es, w', runs, events, ?_⟩
    rw [quiet, kept]
    exact barred.account listed readable
  · refine ⟨result, es, w', runs, events, ?_⟩
    rw [added]
    refine course.account unbarred.clean (r.selection_ascending o _).distinct fun m inside => ?_
    exact (selection_source inside).1

end Runner

section
variable {t : Tracker} {armed : Prop} {plan done rest : List Migration} {es : List Event}
variable {ended : Except EngineError (List MigrationId)}

theorem takenBack_succeeded (taken : List.Forall₂ Migration.TakenBackBy done exs) :
    (∀ x ∈ exs, x.outcome = .ok ()) ∧ exs.map Execution.id = idsOf done := by
  induction taken with
  | nil => exact ⟨fun x inside => (List.not_mem_nil inside).elim, rfl⟩
  | cons first _ ih =>
      exact ⟨List.forall_mem_cons.mpr ⟨first.outcome, ih.1⟩, congr (congrArg _ first.id) ih.2⟩

theorem Unwound.accounts (h : Unwound t armed [] plan done rest ended es) (calm : ¬armed) :
    Accounts .down (executionsIn es) ended ∧ succeededIds (executionsIn es) = idsOf done := by
  obtain ⟨-, exs, ran, executed, taken, halts⟩ := h
  obtain ⟨succeeded, ids⟩ := takenBack_succeeded taken
  rw [List.nil_append, ← ids] at halts
  rw [executed, ← ids]
  cases halts with
  | finished es =>
      rw [List.append_nil]
      exact ⟨.whole exs succeeded, succeededIds_of_all succeeded⟩
  | @failed m a e down fails rest es =>
      exact ⟨.halted exs ⟨m.id, .down, a, .error e⟩ e .completed succeeded rfl,
        succeededIds_halted succeeded ⟨e, rfl⟩⟩
  | undeleted down rest e struck => exact (calm struck).elim

theorem mem_undone_iff {rows : List TrackingRow}
    (completed : ∀ m ∈ done, HasCompleted rows m.id) (id : MigrationId) :
    id ∈ idsOf done ↔ HasCompleted rows id ∧ HasNone (rowsWithout (idsOf done) rows) id := by
  constructor
  · intro inside
    obtain ⟨m, among, rfl⟩ := List.mem_map.mp inside
    exact ⟨completed m among, fun row left => (mem_rowsWithout.mp left).2 m.id inside⟩
  · rintro ⟨⟨row, present, own, -⟩, gone⟩
    by_contra kept
    refine gone row (mem_rowsWithout.mpr ⟨present, fun other among same => kept ?_⟩) own
    rwa [← MigrationId.some_text_injective (same.symm.trans own)]

end

theorem RollbackStrategy.check_error {migrations : List Migration} {rows : List TrackingRow}
    {strategy : RollbackStrategy} {e : EngineError}
    (checked : strategy.check migrations rows = .error e) : ∃ id, e = .notFound id := by
  cases strategy with
  | downTo id =>
      simp only [check] at checked
      split at checked
      · cases checked
      · exact ⟨_, (Except.error.inj checked).symm⟩
  | last | steps | all => cases checked

theorem planRollback_refused {r : Runner} {strategy : RollbackStrategy} {w : World}
    {migrations : List Migration} {e : EngineError} (listed : r.source.list = .ok migrations)
    (reserved : w.database.Reserved r.tracker.table)
    (readable : ∀ row ∈ w.database.trackingRows r.tracker.table, ∃ r, row.decode = .ok r)
    (calm : w.faults = []) (fails : (w.run (r.planRollback strategy)).1 = .error e) :
    (∃ id, e = .notFound id) ∨ ∃ id, e = .irreversible id := by
  obtain ⟨records, decoded⟩ := Tracker.decoded_of_decodes
    fun row (inside : row ∈ completedRows _) => readable row (mem_completedRows.mp inside).1
  obtain ⟨es, plans⟩ := planRollback_reads calm listed reserved readable decoded strategy
  have refused := (congrArg Prod.fst plans).symm.trans fails
  unfold RollbackStrategy.plan at refused
  cases checked : strategy.check migrations (w.database.trackingRows r.tracker.table) with
  | error e' =>
      rw [checked] at refused
      obtain rfl : e' = e := Except.error.inj refused
      exact .inl (RollbackStrategy.check_error checked)
  | ok =>
      rw [checked] at refused
      obtain ⟨id, -, ⟨rfl, -⟩ | ⟨rfl, -⟩⟩ := refused_of_planned refused
      · exact .inl ⟨_, rfl⟩
      · exact .inr ⟨_, rfl⟩

/-- What the result of a rollback says of its executions, of the rows before it and of those after it.
    Where ids of rows are not distinct, an id can be taken back more than once. -/
structure RollbackAccount (rows rows' : List TrackingRow) (result : Except EngineError RollbackReport)
    (exs : List Execution) : Prop where
  accounts : Accounts .down exs (result.map RollbackReport.rolledBack)
  report : ∀ report, result = .ok report → report = .of report.rolledBack
  distinct : (rows.map TrackingRow.id).Nodup → (succeededIds exs).Nodup
  lost : ∀ id, id ∈ succeededIds exs ↔ HasCompleted rows id ∧ HasNone rows' id

theorem rollback_accounts {r : Runner} {w : World} {migrations : List Migration}
    (strategy : RollbackStrategy) (listed : r.source.list = .ok migrations)
    (readable : ∀ row ∈ w.database.trackingRows r.tracker.table, ∃ record, row.decode = .ok record)
    (reserved : w.database.Reserved r.tracker.table)
    (alone : r.source.LeavesAlone r.tracker.table) (calm : w.faults = []) :
    ∃ result es w', w.run (r.rollback strategy false) = (result, w') ∧ w'.events = w.events ++ es ∧
      RollbackAccount (w.database.trackingRows r.tracker.table)
        (w'.database.trackingRows r.tracker.table) result (executionsIn es) := by
  obtain ⟨result, es, w', ends, leads, ⟨e, plans, rfl, quiet, kept⟩ |
    ⟨plan, done, rest, ended, plans, unwound, rfl, left⟩⟩ := rollback_cases r strategy w alone
  · refine ⟨_, es, w', ends, leads.events, ?_⟩
    rw [quiet, kept]
    refine ⟨.refused e fun failure same => ?_, fun report same => (nomatch same),
      fun _ => List.nodup_nil, fun id => ⟨fun inside => (List.not_mem_nil inside).elim, fun both => ?_⟩⟩
    · obtain ⟨id, rfl⟩ | ⟨id, rfl⟩ := planRollback_refused listed reserved readable calm plans <;>
        cases same
    · exact (both.2.not_completed both.1).elim
  · obtain ⟨completed, distinct⟩ := plan_completed plans
    obtain ⟨accounts, achieved⟩ := unwound.accounts (not_not_intro calm)
    refine ⟨_, es, w', ends, leads.events, ?_, fun report same => ?_, fun unique => ?_, fun id => ?_⟩
    · cases ended <;> exact accounts
    · cases ended <;> cases same
      rfl
    · rw [achieved]
      refine (distinct unique).sublist (List.Sublist.map Migration.id ?_)
      exact unwound.parts ▸ List.sublist_append_left done rest
    · rw [achieved, left]
      exact mem_undone_iff
        (fun m among => completed m (unwound.parts ▸ List.mem_append_left rest among)) id

def Sql.Statement.isQuery : Statement → Bool
  | select .. => true
  | _ => false

/-- Whether an action sends nothing but queries, if it sends any statements at all. -/
def Action.onlyQueries : Action → Bool
  | .sql text => (Sql.Statement.listOf? text).all (·.all (·.1.isQuery))
  | .procedure .. => false

theorem Sql.runAll_queries {params : List SqlValue} {answer : Answer} {db : Database}
    {statements : List (Statement × Nat)} (queries : ∀ both ∈ statements, both.1.isQuery = true) :
    (runAll params answer statements db).2 = db := by
  induction statements generalizing answer with
  | nil => rfl
  | cons first rest ih =>
      obtain ⟨statement, needed⟩ := first
      obtain ⟨asks, others⟩ := List.forall_mem_cons.mp queries
      rw [runAll]
      split
      · rfl
      · cases statement with
        | select query =>
            cases selected : selectRows db params query with
            | error text => simp [Statement.run, selected, bind, Except.bind]
            | ok rows =>
                simpa [Statement.run, selected, bind, Except.bind, pure, Except.pure] using ih others
        | _ => cases asks

theorem Action.leavesAlone_queries {a : Action} (queries : a.onlyQueries = true) (name : TableName) :
    a.LeavesAlone name := by
  intro w id d
  cases a with
  | procedure => cases queries
  | sql text =>
      have kept (db : Database) : (Sql.runBatch text db).2 = db := by
        unfold Sql.runBatch Sql.runText
        cases read : Sql.Statement.listOf? text with
        | none => rfl
        | some statements =>
            have each : statements.all (·.1.isQuery) = true := by
              rwa [onlyQueries, read] at queries
            exact Sql.runAll_queries (List.all_eq_true.mp each)
      have same : (w.perform id d (.sql text)).2.database = w.database := by
        simp only [World.perform]
        split
        · rfl
        · obtain ⟨e, w', called, untouched, -⟩ | ⟨w', called, answered, -⟩ := w.call_cases (.batch text)
          all_goals
            rw [World.batch, called]
          · exact untouched
          · exact answered.trans (kept w.database)
      rw [same]

theorem Source.leavesAlone_queries {s : Source} {migrations : List Migration}
    (listed : s.list = .ok migrations)
    (queries : ∀ m ∈ migrations, m.up.onlyQueries = true ∧ m.down.all Action.onlyQueries = true)
    (name : TableName) : s.LeavesAlone name := by
  intro ms listed' m inside d a given
  obtain rfl : migrations = ms := Except.ok.inj (listed.symm.trans listed')
  obtain ⟨forward, reverse⟩ := queries m inside
  cases d with
  | up =>
      obtain rfl : m.up = a := Option.some.inj given
      exact Action.leavesAlone_queries forward name
  | down =>
      have down : m.down = some a := given
      rw [down, Option.all_some] at reverse
      exact Action.leavesAlone_queries reverse name

namespace Cli

variable {α : Type}

/-- The exit code that a result of the engine comes to. -/
def resultCode : Except EngineError α → Nat
  | .ok _ => 0
  | .error (.dirtyState ..) => dirtyCode
  | .error (.execution _) => haltedCode
  | .error _ => 1

/-- The lines that are printed for a result of the engine: those for a report, or those for what was
    finished before an execution failed. -/
def resultLines (lines : α → List String) : Except EngineError α → List String
  | .ok report => lines report
  | .error (.execution f) =>
    idLines ("  " ++ finishedWord f.direction ++ ": ") f.completed ++
      if f.completed.isEmpty then []
      else [finishedWord f.direction ++ " " ++ plural f.completed.length "migration" ++
        " before the failure"]
  | .error _ => []

theorem Command.told_ends (x : Engine α) (lines : α → List String) (st : Session) :
    let ran := st.world.run x
    let told := (Command.engine x >>= fun report => Command.lines (lines report)).run st
    exitCode told.1 = resultCode ran.1 ∧
      told.2.output = st.output ++ unlines (resultLines lines ran.1) ∧ told.2.world = ran.2 := by
  intro ran told
  rcases ends : st.world.run x with ⟨result, w'⟩
  have comes : (st.engine x).1 = result := congrArg Prod.fst ends
  have shown : st.engine x = (result, (st.engine x).2) := Prod.ext comes rfl
  have output : (st.engine x).2.output = st.output := rfl
  have world : (st.engine x).2.world = w' := congrArg Prod.snd ends
  generalize (st.engine x).2 = st' at shown output world
  have ran_eq : ran = (result, w') := ends
  cases result with
  | ok report =>
      have runs : (Command.engine x).run st = (.ok report, st') := by
        change Command.engine x st = _
        rw [Command.engine, shown]
      have told_eq : told = (.ok (), st'.write (unlines (lines report))) := Command.run_bind_ok runs _
      rw [ran_eq, told_eq]
      exact ⟨rfl, congrArg (· ++ _) output, world⟩
  | error e =>
      have runs : (Command.engine x).run st = (.error (reportError st' e).1, (reportError st' e).2) := by
        change Command.engine x st = _
        rw [Command.engine, shown]
      have told_eq : told = (.error (reportError st' e).1, (reportError st' e).2) :=
        Command.run_bind_error runs _
      rw [ran_eq, told_eq, reportError_world, ← output]
      cases e with
      | execution => exact ⟨rfl, rfl, world⟩
      | _ => exact ⟨rfl, String.append_empty.symm, world⟩

/-- A line of a summary: a single one, and not indented as those are that name a migration. -/
def IsSummary (line : String) : Prop :=
  '\n' ∉ line.toList ∧ line.toList.head? ≠ some ' '

instance (line : String) : Decidable (IsSummary line) :=
  inferInstanceAs (Decidable (_ ∧ _))

/-- Lines tell of migrations that they are done, with one line for each of them and in their order.
    Before them stand notices about other migrations of the source, and after them a summary
    (`IsSummary`). -/
def Tells (migrations : List Migration) (word : String) (done : List MigrationId)
    (lines : List String) : Prop :=
  ∃ notices summary, lines = notices ++ idLines word done ++ summary ∧
    (∀ line ∈ notices, ∃ m ∈ migrations,
      line = "  Skipped (dirty): " ++ m.id.text ∨ line = "  Changed since applied: " ++ m.id.text) ∧
    ∀ line ∈ summary, IsSummary line

theorem newline_not_mem_append {s t : String} (first : '\n' ∉ s.toList) (rest : '\n' ∉ t.toList) :
    '\n' ∉ (s ++ t).toList := by
  rw [String.toList_append, List.mem_append]
  exact fun either => either.elim first rest

theorem newline_not_mem_repr (n : Nat) : '\n' ∉ (Nat.repr n).toList := by
  intro inside
  rw [Nat.toList_repr] at inside
  cases Nat.isDigit_of_mem_toDigits (by decide) (by decide) inside

theorem newline_not_mem_plural {noun : String} (single : '\n' ∉ noun.toList) (n : Nat) :
    '\n' ∉ (plural n noun).toList := by
  refine newline_not_mem_append (newline_not_mem_append (newline_not_mem_append ?_ ?_) single) ?_
  · exact newline_not_mem_repr n
  · decide
  · split <;> decide

theorem IsSummary.append {s t : String} (first : IsSummary s) (rest : '\n' ∉ t.toList)
    (filled : s.toList ≠ []) : IsSummary (s ++ t) := by
  refine ⟨newline_not_mem_append first.1 rest, ?_⟩
  rw [String.toList_append, List.head?_append_of_ne_nil _ filled]
  exact first.2

variable {migrations : List Migration}

theorem tells_done (word : String) (done : List MigrationId) {summary : List String}
    (sums : ∀ line ∈ summary, IsSummary line) :
    Tells migrations word done (idLines word done ++ summary) :=
  ⟨[], summary, rfl, List.forall_mem_nil _, sums⟩

theorem notices_of_report {records : List MigrationRecord} {applied : List MigrationId} {line : String}
    (inside : line ∈
      idLines "  Skipped (dirty): " (Runner.reportOn migrations records applied).skippedDirty ++
        idLines "  Changed since applied: " (Runner.reportOn migrations records applied).drifted) :
    ∃ m ∈ migrations,
      line = "  Skipped (dirty): " ++ m.id.text ∨ line = "  Changed since applied: " ++ m.id.text := by
  rcases List.mem_append.mp inside with skipped | changed
  · obtain ⟨id, among, rfl⟩ := List.mem_map.mp skipped
    obtain ⟨m, dirty, rfl⟩ := List.mem_map.mp among
    exact ⟨m, (List.mem_filter.mp dirty).1, .inl rfl⟩
  · obtain ⟨id, among, rfl⟩ := List.mem_map.mp changed
    obtain ⟨m, known, drifted⟩ := List.mem_filterMap.mp among
    obtain ⟨found, differs, rfl⟩ := Option.map_eq_some_iff.mp drifted
    exact ⟨m, known, .inr (by rw [drift?_own differs])⟩

theorem tells_report (records : List MigrationRecord) (applied : List MigrationId) :
    Tells migrations "  Applied: " applied (Runner.reportOn migrations records applied).lines := by
  let report := Runner.reportOn migrations records applied
  let notices := idLines "  Skipped (dirty): " report.skippedDirty ++
    idLines "  Changed since applied: " report.drifted
  have about (line : String) (inside : line ∈ notices) := notices_of_report inside
  cases applied with
  | nil =>
      refine ⟨notices, ["Nothing to migrate (" ++ Nat.repr report.alreadyApplied ++ " already applied)"],
        ?_, about, List.forall_mem_singleton.mpr ?_⟩
      · have nothing : idLines "  Applied: " [] = [] := rfl
        rw [nothing, List.append_nil]
        rfl
      · rw [String.append_assoc]
        have counted := newline_not_mem_append (t := " already applied)")
          (newline_not_mem_repr report.alreadyApplied) (by decide)
        exact .append (by decide) counted (by decide)
  | cons first others =>
      refine ⟨notices, ["", "Applied " ++ plural (first :: others).length "migration"], ?_, about,
        List.forall_mem_cons.mpr ⟨by decide, List.forall_mem_singleton.mpr ?_⟩⟩
      · rw [List.append_assoc]
        rfl
      · exact .append (by decide) (newline_not_mem_plural (by decide) _) (by decide)

theorem tells_rollback (strategy : RollbackStrategy) (rolledBack : List MigrationId) :
    Tells migrations "  Rolled back: " rolledBack ((RollbackReport.of rolledBack).lines strategy) := by
  cases rolledBack with
  | nil => exact tells_done _ [] (List.forall_mem_singleton.mpr (by decide))
  | cons first others =>
      refine tells_done _ (first :: others)
        (List.forall_mem_cons.mpr ⟨by decide, List.forall_mem_singleton.mpr ?_⟩)
      exact .append (by decide) (newline_not_mem_plural (by decide) _) (by decide)

theorem tells_failure {α : Type} (lines : α → List String) (f : ExecutionFailure) :
    Tells migrations ("  " ++ finishedWord f.direction ++ ": ") f.completed
      (resultLines lines (.error (.execution f))) := by
  refine tells_done _ f.completed fun line last => ?_
  split at last
  · cases last
  · obtain rfl := List.mem_singleton.mp last
    rw [String.append_assoc]
    have counted : '\n' ∉ (plural f.completed.length "migration" ++ " before the failure").toList :=
      newline_not_mem_append (newline_not_mem_plural (by decide) _) (by decide)
    cases f.direction with
    | up => exact .append (by decide) counted (by decide)
    | down => exact .append (by decide) counted (by decide)

section
variable {α : Type} {d : Direction} {exs : List Execution} {result : Except EngineError α}
variable {ids : α → List MigrationId} {lines : α → List String}

theorem halted_iff (h : Accounts d exs (result.map ids)) :
    resultCode result = haltedCode ↔ ∃ x ∈ exs, x.Failed := by
  rw [h.failed_iff]
  cases result with
  | ok report => simp [resultCode, haltedCode, Except.map]
  | error e => cases e <;> simp [resultCode, haltedCode, dirtyCode, Except.map]

theorem dirty_iff (result : Except EngineError α) :
    resultCode result = dirtyCode ↔ ∃ id state dirty, result = .error (.dirtyState id state dirty) := by
  cases result with
  | ok report => simp [resultCode, dirtyCode]
  | error e => cases e <;> simp [resultCode, haltedCode, dirtyCode]

theorem ends_of_code (code : resultCode result = 0 ∨ resultCode result = haltedCode) :
    (∃ report, result = .ok report) ∨ ∃ failure, result = .error (.execution failure) := by
  cases result with
  | ok report => exact .inl ⟨report, rfl⟩
  | error e => cases e <;> simp_all [resultCode, haltedCode, dirtyCode]

/-- The lines for a result that accounts for its executions tell of those that succeeded. -/
theorem tells_account (h : Accounts d exs (result.map ids))
    (reports : ∀ report, result = .ok report →
      Tells migrations ("  " ++ finishedWord d ++ ": ") (ids report) (lines report))
    (told : resultCode result = 0 ∨ resultCode result = haltedCode) :
    Tells migrations ("  " ++ finishedWord d ++ ": ") (succeededIds exs)
      (resultLines lines result) := by
  obtain ⟨report, rfl⟩ | ⟨failure, rfl⟩ := ends_of_code told
  · rw [← Accounts.of_ok h]
    exact reports report rfl
  · obtain ⟨rfl, same⟩ := Accounts.of_execution h
    rw [← same]
    exact tells_failure lines failure

end

/-- The exit code, the output and the world that a command leaves which prints what the engine reports. -/
theorem Invocation.run_told {i : Invocation} {s : Surroundings} {opened : OpenProject} {α : Type}
    {x : Engine α} {lines : α → List String} {result : Except EngineError α} {w : World}
    (opens : i.options.openProject s.files = .ok opened)
    (told : (i.command.run opened.project).run (i.session s opened.database) =
      (Command.engine x >>= fun report => Command.lines (lines report)).run
        (i.session s opened.database))
    (runs : (World.start opened.database s.clock).run x = (result, w)) :
    (i.run s).code = resultCode result ∧ (i.run s).output = unlines (resultLines lines result) ∧
      (i.ending s opened).2.world = w := by
  obtain ⟨code, output, -⟩ := Invocation.run_opened opens
  obtain ⟨code', output', world⟩ := Command.told_ends x lines (i.session s opened.database)
  have same : (i.session s opened.database).world.run x = (result, w) := runs
  unfold ending at code output ⊢
  rw [told] at code output ⊢
  rw [same] at code' output' world
  exact ⟨code.trans code', output.trans (output'.trans String.empty_append), world⟩

theorem runTarget_eq_ok {upTo : Option String} (steps : Option Nat)
    (valid : ∀ text, upTo = some text → ∃ id, MigrationId.ofText? text = some id) :
    ∃ target, runTarget upTo steps = .ok target := by
  cases upTo with
  | some text =>
      obtain ⟨id, reads⟩ := valid text rfl
      exact ⟨.upTo id, by simp only [runTarget, reads]⟩
  | none =>
      cases steps with
      | some n => exact ⟨.steps n, rfl⟩
      | none => exact ⟨.all, rfl⟩

/-- What a command says of the executions that it came to, by its exit code and its output: whether an
    action returned an error, and on codes 0 and 4 which executions succeeded, in order. Those are the
    migrations of which `moved` holds. -/
structure TellsTruth (migrations : List Migration) (before : String) (exs : List Execution)
    (moved : MigrationId → Prop) (code : Nat) (output : String) : Prop where
  halted : code = 4 ↔ ∃ x ∈ exs, x.Failed
  told : code = 0 ∨ code = 4 →
    ∃ lines, output = unlines lines ∧ Tells migrations before (succeededIds exs) lines
  moved : code = 0 ∨ code = 4 → ∀ id, id ∈ succeededIds exs ↔ moved id

/-- Exit code 3 says that a dirty row stands in the way of what is not forced. Nothing has changed then. -/
structure RefusesDirty (force : Bool) (rows rows' : List TrackingRow) (code : Nat) : Prop where
  refused : code = 3 ↔ force = false ∧ ∃ row ∈ rows, row.state.isDirty = true
  kept : code = 3 → rows' = rows

/-- The exit code and the output tell the truth (`TellsTruth`, `RefusesDirty`). With no failing call on
    the tracking table, a command that executes migrations ends with code 4 exactly where an action
    returned an error, and one that applies them ends with code 3 exactly where a dirty row stands in the
    way, and has changed no row then. On codes 0 and 4, the printed lines name the executions that
    succeeded, in order, and these are the migrations whose row was made and completed, or which had a
    completed row and have none now. None is named twice, unless a table without constraints has two
    completed rows of one migration that is taken back. -/
theorem exits_truthfully (i : Invocation) (s : Surroundings) (opened : OpenProject)
    (migrations : List Migration) (opens : i.options.openProject s.files = .ok opened)
    (listed : opened.project.runner.source.list = .ok migrations)
    (reserved : opened.database.Reserved opened.project.runner.tracker.table)
    (readable : ∀ row ∈ opened.database.trackingRows opened.project.runner.tracker.table,
      ∃ record, row.decode = .ok record)
    (alone : opened.project.runner.source.LeavesAlone opened.project.runner.tracker.table) :
    let t := opened.project.runner.tracker.table
    let after := (i.ending s opened).2.world
    let rows := opened.database.trackingRows t
    let rows' := after.database.trackingRows t
    let exs := executionsIn after.events
    let code := (i.run s).code
    (∀ force upTo steps strict, i.command = .migrate force false upTo steps strict →
      (∀ text, upTo = some text → ∃ id, MigrationId.ofText? text = some id) →
      opened.database.CanMake t →
        TellsTruth migrations "  Applied: " exs (fun id => HasNone rows id ∧ HasCompleted rows' id)
          code (i.run s).output ∧
        RefusesDirty force rows rows' code ∧ (code = 0 ∨ code = 4 → (succeededIds exs).Nodup)) ∧
    ∀ strategy, i.command = .rollback strategy false →
      TellsTruth migrations "  Rolled back: " exs (fun id => HasCompleted rows id ∧ HasNone rows' id)
        code (i.run s).output ∧
      (code = 0 ∨ code = 4 → (rows.map TrackingRow.id).Nodup → (succeededIds exs).Nodup) := by
  intro t after rows rows' exs code
  constructor
  · intro force upTo steps strict command valid makeable
    obtain ⟨target, aimed⟩ := runTarget_eq_ok steps valid
    let o : RunOptions := { force, dryRun := false, target, strictChecksums := strict }
    have told : (i.command.run opened.project).run (i.session s opened.database) =
        (Command.engine (opened.project.runner.run o) >>= fun report => Command.lines report.lines).run
          (i.session s opened.database) := by
      rw [command, Subcommand.run, Project.migrate, aimed]
      rfl
    obtain ⟨result, es, w', runs, events, account⟩ := Runner.run_accounts (o := o)
      (w := .start opened.database s.clock) rfl listed readable reserved makeable alone rfl
    obtain ⟨code_eq, output, world⟩ := Invocation.run_told opens told runs
    subst world
    obtain rfl : after.events = es := events
    rw [show code = _ from code_eq, output]
    refine ⟨⟨halted_iff account.accounts, fun ends => ⟨_, rfl, ?_⟩, fun _ => account.gained⟩,
      ⟨(dirty_iff result).trans account.dirty_iff,
        fun dirty => account.kept ((dirty_iff result).mp dirty)⟩, fun _ => account.distinct⟩
    refine tells_account (d := .up) account.accounts (fun report same => ?_) ends
    obtain ⟨records, reported⟩ := account.report report same
    rw [reported]
    exact tells_report records report.applied
  · intro strategy command
    have told : (i.command.run opened.project).run (i.session s opened.database) =
        (Command.engine (opened.project.runner.rollback strategy false) >>= fun report =>
          Command.lines (report.lines strategy)).run (i.session s opened.database) := by
      rw [command]
      rfl
    obtain ⟨result, es, w', runs, events, account⟩ := rollback_accounts
      (w := .start opened.database s.clock) strategy listed readable reserved alone rfl
    obtain ⟨code_eq, output, world⟩ := Invocation.run_told opens told runs
    subst world
    obtain rfl : after.events = es := events
    rw [show code = _ from code_eq, output]
    refine ⟨⟨halted_iff account.accounts, fun ends => ⟨_, rfl, ?_⟩, fun _ => account.lost⟩,
      fun _ => account.distinct⟩
    refine tells_account (d := .down) account.accounts (fun report same => ?_) ends
    rw [account.report report same]
    exact tells_rollback strategy report.rolledBack

/-- One migration is applied from a directory, and where it is completed its reverse action fails. -/
theorem exits_truthfully_halted :
    let m : Migration := ⟨⟨"001", by decide⟩, none, .sql "", some (.sql "SELECT error('in use')")⟩
    let done : TrackingRow := (Stage.completed (.ofMicros 0) (.ofMicros 5) none).row m.id
    let tree (db : Database) := projectTree db [("migrations".toUTF8, .directory
      [("001".toUTF8, .directory [("down.sql".toUTF8, .file "SELECT error('in use')".toUTF8)])])]
    let s (db : Database) : Surroundings := ⟨tree db, [], fun n => .ofMicros (1000000 * n), false⟩
    let opened (db : Database) := OpenProject.unconfigured (tree db) db
    let migrate := (Subcommand.migrate false false (some "001") none true).plain
    let rollback := (Subcommand.rollback .all false).plain
    let recorded : Database := .holding ⟨true, [done]⟩
    (migrate.options.openProject (tree .empty) = .ok (opened .empty) ∧
      rollback.options.openProject (tree recorded) = .ok (opened recorded)) ∧
    ((migrate.run (s .empty)).code = 0 ∧
      ∃ lines, (migrate.run (s .empty)).output = unlines lines ∧ Tells [m] "  Applied: " [m.id] lines) ∧
    (rollback.run (s recorded)).code = 4 ∧
      ∃ x ∈ executionsIn (rollback.ending (s recorded) (opened recorded)).2.world.events, x.Failed := by
  intro m done tree s opened migrate rollback recorded
  have opens : migrate.options.openProject (tree .empty) = .ok (opened .empty) := by
    dsimp only [migrate, opened, tree]
    rfl
  have opens' : rollback.options.openProject (tree recorded) = .ok (opened recorded) := by
    dsimp only [rollback, opened, tree, recorded, done, m]
    rfl
  have listed : (opened .empty).project.runner.source.list = .ok [m] := by
    dsimp only [opened, tree, m]
    decide +kernel
  have listed' : (opened recorded).project.runner.source.list = .ok [m] := by
    dsimp only [opened, tree, recorded, done, m]
    decide +kernel
  have code : (migrate.run (s .empty)).code = 0 := by
    dsimp only [migrate, s, tree]
    decide +kernel
  have code' : (rollback.run (s recorded)).code = 4 := by
    dsimp only [rollback, s, tree, recorded, done]
    decide +kernel
  have executed : succeededIds (executionsIn
      (migrate.ending (s .empty) (opened .empty)).2.world.events) = [m.id] := by
    dsimp only [migrate, s, opened, tree, m]
    decide +kernel
  have queries : ∀ m' ∈ [m], m'.up.onlyQueries = true ∧ m'.down.all Action.onlyQueries = true := by
    decide +kernel
  have absent : Database.empty.find? TableName.standard.relation = none := rfl
  have stored : recorded.Stores .standard ⟨true, [done]⟩ := .holding _
  have readable : ∀ row ∈ Database.empty.trackingRows .standard, ∃ record, row.decode = .ok record := by
    intro row inside
    rw [Database.trackingRows, absent] at inside
    cases inside
  have readable' : ∀ row ∈ recorded.trackingRows .standard, ∃ record, row.decode = .ok record := by
    rw [stored.trackingRows_eq]
    intro row inside
    obtain rfl := List.mem_singleton.mp inside
    exact ⟨_, Stage.decode_row ..⟩
  obtain ⟨migrates, -⟩ := exits_truthfully migrate (s .empty) (opened .empty) [m] opens listed
    (.inl absent) readable (Source.leavesAlone_queries listed queries _)
  obtain ⟨truth, -, -⟩ := migrates false (some "001") none true rfl
    (fun text same => ⟨m.id, by rw [← Option.some.inj same]; decide⟩) (.inr (.inr rfl))
  obtain ⟨lines, printed, tells⟩ := truth.told (.inl code)
  rw [executed] at tells
  obtain ⟨-, rolls⟩ := exits_truthfully rollback (s recorded) (opened recorded) [m] opens' listed'
    (.inr ⟨_, stored⟩) readable' (Source.leavesAlone_queries listed' queries _)
  exact ⟨⟨opens, opens'⟩, ⟨code, lines, printed, tells⟩, code', (rolls .all rfl).1.halted.mp code'⟩

/-- In a table that was made without constraints, one id can have two completed rows. Then a rollback
    names it twice. -/
theorem doubled_row_told_twice :
    let m : Migration := ⟨⟨"001", by decide⟩, none, .sql "", some (.sql "")⟩
    let done (finish : Int) : Stage := .completed (.ofMicros 0) (.ofMicros finish) none
    let rows : List TrackingRow := [(done 7).row m.id, (done 5).row m.id]
    let db : Database := .holding ⟨false, rows⟩
    let tree := projectTree db [("migrations".toUTF8, .directory
      [("001".toUTF8, .directory [("down.sql".toUTF8, .file "".toUTF8)])])]
    let i := (Subcommand.rollback .all false).plain
    let s : Surroundings := ⟨tree, [], fun n => .ofMicros (1000000 * n), false⟩
    let opened := OpenProject.unconfigured tree db
    i.options.openProject s.files = .ok opened ∧
      opened.project.runner.source.list = .ok [m] ∧
      db.Reserved .standard ∧ (∀ row ∈ rows, ∃ record, row.decode = .ok record) ∧
      opened.project.runner.source.LeavesAlone .standard ∧
      (i.run s).code = 0 ∧
      (i.run s).output = "  Rolled back: 001\n  Rolled back: 001\n\nRolled back 2 migrations\n" := by
  intro m done rows db tree i s opened
  have opens : i.options.openProject s.files = .ok opened := by
    dsimp only [i, s, opened, tree, db, rows, done, m]
    rfl
  have listed : opened.project.runner.source.list = .ok [m] := by
    dsimp only [opened, tree, db, rows, done, m]
    decide +kernel
  have stored : db.Stores .standard ⟨false, rows⟩ := .holding _
  have present : db.trackingRows .standard = rows := stored.trackingRows_eq
  have decodes : ∀ row ∈ rows, ∃ record, row.decode = .ok record := by
    simp only [rows, List.mem_cons, List.not_mem_nil, or_false]
    rintro row (rfl | rfl)
    · exact ⟨_, (done 7).decode_row m.id⟩
    · exact ⟨_, (done 5).decode_row m.id⟩
  have decoded : (completedRows rows).mapM Tracker.decodeRow =
      .ok [(done 7).record m.id, (done 5).record m.id] := by
    have sorted : completedRows rows = rows := List.mergeSort_of_pairwise (by decide)
    simp only [sorted, rows, List.mapM_cons, Tracker.decodeRow, Stage.decode_row]
    rfl
  -- Sorting does not reduce by itself, so only what comes after planning is evaluated.
  let w : World := .start db s.clock
  obtain ⟨es, plans⟩ := planRollback_reads (w := w) (t := ⟨.standard⟩) rfl listed (.inr ⟨_, stored⟩)
    (present ▸ decodes) (present ▸ decoded) .all
  let planned : World := { w with events := es }
  have plans : w.run (opened.project.runner.planRollback .all) = (.ok [m, m], planned) := plans
  have unwinds : (planned.run (Runner.unwind ⟨.standard⟩ [m, m])).1 = .ok (.of [m.id, m.id]) := by
    with_unfolding_all rfl
  rcases ends : planned.run (Runner.unwind ⟨.standard⟩ [m, m]) with ⟨result, w'⟩
  rw [ends] at unwinds
  obtain rfl : result = .ok (.of [m.id, m.id]) := unwinds
  have rolls : w.run (opened.project.runner.rollback .all false) = (.ok (.of [m.id, m.id]), w') := by
    rw [rollback_eq, run_bind_ok plans]
    exact ends
  have told : (i.command.run opened.project).run (i.session s db) =
      (Command.engine (opened.project.runner.rollback .all false) >>= fun report =>
        Command.lines (report.lines .all)).run (i.session s db) := rfl
  obtain ⟨code, output, -⟩ := Invocation.run_told opens told rolls
  have quiet : ∀ m' ∈ [m], m'.up.onlyQueries = true ∧ m'.down.all Action.onlyQueries = true := by
    decide +kernel
  refine ⟨opens, listed, .inr ⟨_, stored⟩, decodes, Source.leavesAlone_queries listed quiet _, code, ?_⟩
  rw [output]
  decide +kernel

end Cli

end SchemaMigration
