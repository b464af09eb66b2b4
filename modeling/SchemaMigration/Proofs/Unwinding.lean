import SchemaMigration.Proofs.CompletionOrder

/-! # Rollbacks step by step

A rollback executes nothing before all of it is planned. Then every step executes one reverse action and
deletes the row of its migration, and the first one that fails is the last one: what was taken back
before stays so, and nothing after it is touched (`Unwound`).
-/

namespace SchemaMigration

open World

/-- The rows that are left when those with certain ids are deleted. -/
def rowsWithout (ids : List MigrationId) (rows : List TrackingRow) : List TrackingRow :=
  rows.filter fun row => ids.all fun id => row.id ≠ some id.text

theorem mem_rowsWithout {ids : List MigrationId} {rows : List TrackingRow} {row : TrackingRow} :
    row ∈ rowsWithout ids rows ↔ row ∈ rows ∧ ∀ id ∈ ids, row.id ≠ some id.text := by
  simp [rowsWithout]

@[simp] theorem rowsWithout_nil (rows : List TrackingRow) : rowsWithout [] rows = rows := by
  simp [rowsWithout]

theorem rowsWithout_cons (id : MigrationId) (ids : List MigrationId) (rows : List TrackingRow) :
    rowsWithout (id :: ids) rows = rowsWithout ids (rows.filter fun row => !row.hasId id.text) := by
  rw [rowsWithout, rowsWithout, List.filter_filter]
  apply List.filter_congr
  intro row _
  rw [List.all_cons, Bool.and_comm]
  congr 1
  rw [Bool.eq_iff_iff, decide_eq_true_iff, Bool.not_eq_true', ← Bool.not_eq_true,
    TrackingRow.hasId_iff]

/-- The execution takes a migration back: its reverse action, with success. -/
structure Migration.TakenBackBy (m : Migration) (x : Execution) : Prop where
  id : x.id = m.id
  direction : x.direction = .down
  action : m.down = some x.action
  outcome : x.outcome = .ok ()

/-- How a rollback ends at the first of the migrations that are left: with a result, with an execution
    that takes nothing back, and at the end of some events. -/
inductive Halts (t : Tracker) (armed : Prop) (rolledBack : List MigrationId) :
    List Migration → Except EngineError (List MigrationId) → List Execution → List Event → Prop where
  | finished (es : List Event) : Halts t armed rolledBack [] (.ok rolledBack) [] es
  | failed {m : Migration} {a : Action} {e : DbError} (down : m.down = some a)
      (fails : ∃ w : World, (w.perform m.id .down a).1 = .error e) (rest : List Migration)
      (es : List Event) :
      Halts t armed rolledBack (m :: rest)
        (.error (.execution ⟨m.id, .down, .completed, e.message, rolledBack⟩))
        [⟨m.id, .down, a, .error e⟩] es
  | undeleted {m : Migration} {a : Action} (down : m.down = some a) (rest : List Migration)
      (e : DbError) (struck : armed) (es : List Event) :
      Halts t armed rolledBack (m :: rest) (.error (.database e)) [⟨m.id, .down, a, .ok ()⟩]
        (es ++ [.called (.change t.table (.delete m.id.text)) (.error e)])

/-- A rollback has come to an end with a plan: `done` were taken back, each by one execution, and at
    `rest` it `Halts`. Those that were taken back before are in `rolledBack`. -/
structure Unwound (t : Tracker) (armed : Prop) (rolledBack : List MigrationId)
    (plan done rest : List Migration) (ended : Except EngineError (List MigrationId))
    (es : List Event) : Prop where
  parts : plan = done ++ rest
  executed : ∃ exs ran, executionsIn es = exs ++ ran ∧
    List.Forall₂ Migration.TakenBackBy done exs ∧
    Halts t armed (rolledBack ++ idsOf done) rest ended ran es

variable {w : World} {t : Tracker} {m : Migration} {constrained : Bool} {rows : List TrackingRow}
variable {armed : Prop} {rolledBack : List MigrationId} {plan done rest : List Migration}
variable {ended : Except EngineError (List MigrationId)} {es fs : List Event}

theorem Halts.prepend {ran : List Execution} (h : Halts t armed rolledBack rest ended ran es)
    (before : List Event) : Halts t armed rolledBack rest ended ran (before ++ es) := by
  cases h with
  | finished es => exact .finished _
  | failed down fails rest es => exact .failed down fails rest _
  | undeleted down rest e struck es =>
      rw [← List.append_assoc]
      exact .undeleted down rest e struck _

namespace Unwound

theorem halted {ran : List Execution} (h : Halts t armed rolledBack plan ended ran es)
    (executed : executionsIn es = ran) : Unwound t armed rolledBack plan [] plan ended es :=
  ⟨rfl, [], ran, executed, .nil, by rwa [idsOf, List.map_nil, List.append_nil]⟩

theorem prepend (h : Unwound t armed rolledBack plan done rest ended fs)
    (quiet : executionsIn es = []) : Unwound t armed rolledBack plan done rest ended (es ++ fs) := by
  obtain ⟨exs, ran, executed, taken, halts⟩ := h.executed
  refine ⟨h.parts, exs, ran, ?_, taken, halts.prepend es⟩
  rw [executionsIn_append, quiet, executed, List.nil_append]

theorem cons {x : Execution} (first : m.TakenBackBy x) (executed : executionsIn es = [x])
    (h : Unwound t armed (rolledBack ++ [m.id]) plan done rest ended fs) :
    Unwound t armed rolledBack (m :: plan) (m :: done) rest ended (es ++ fs) := by
  obtain ⟨exs, ran, executed', taken, halts⟩ := h.executed
  refine ⟨by rw [h.parts, List.cons_append], x :: exs, ran, ?_, .cons first taken, ?_⟩
  · rw [executionsIn_append, executed, executed']
    rfl
  · rw [List.append_assoc] at halts
    exact halts.prepend es

end Unwound

theorem remove_ends (stored : w.database.Stores t.table ⟨constrained, rows⟩) (id : MigrationId) :
    (∃ e w', w.run (discard (t.remove id)) = (.error (.database e), w') ∧
      w'.database = w.database ∧ w.faults ≠ [] ∧
      w.LeadsTo 0 [.called (.change t.table (.delete id.text)) (.error e)] w') ∨
    ∃ es w', w.run (discard (t.remove id)) = (.ok (), w') ∧
      w'.database.Stores t.table ⟨constrained, rows.filter fun row => !row.hasId id.text⟩ ∧
      w.LeadsTo 0 es w' ∧ executionsIn es = [] := by
  rw [t.run_remove]
  obtain ⟨e, w', called, kept, leads, armed⟩ | ⟨w', called, same, leads⟩ :=
    w.call_cases (.change t.table (.delete id.text)) <;> rw [called]
  · exact .inl ⟨e, w', rfl, kept, armed, leads⟩
  · have applied : w.database.change t.table (.delete id.text) = _ := stored.change_eq rfl
    rw [Database.answer, applied] at same leads ⊢
    exact .inr ⟨_, w', rfl, same ▸ stored.replaced _, leads, rfl⟩

theorem takeBackOne_ends (stored : w.database.Stores t.table ⟨constrained, rows⟩)
    (reversible : m.isReversible = true) (alone : m.LeavesAlone t.table)
    (rolledBack : List MigrationId) (struck : w.faults ≠ [] → armed) :
    (∃ x es w', w.run (Runner.takeBackOne t rolledBack m) = (.ok (), w') ∧ m.TakenBackBy x ∧
      w'.database.Stores t.table ⟨constrained, rows.filter fun row => !row.hasId m.id.text⟩ ∧
      w.LeadsTo 0 es w' ∧ executionsIn es = [x]) ∨
    ∃ e ran es w', w.run (Runner.takeBackOne t rolledBack m) = (.error e, w') ∧
      w'.database.Stores t.table ⟨constrained, rows⟩ ∧ w.LeadsTo 0 es w' ∧ executionsIn es = ran ∧
      ∀ rest, Halts t armed rolledBack (m :: rest) (.error e) ran es := by
  obtain ⟨a, down⟩ := Option.isSome_iff_exists.mp reversible
  obtain ⟨batches, sent, leads⟩ := w.perform_leads m.id .down a
  have same := alone .down a down w m.id .down
  unfold Runner.takeBackOne
  simp only [down]
  rcases performs : w.perform m.id .down a with ⟨outcome, w₁⟩
  rw [performs] at leads same
  have executed := executionsIn_action sent m.id .down a outcome
  have stored₁ : w₁.database.Stores t.table ⟨constrained, rows⟩ := same.trans stored
  have runs : w.run (Engine.perform m.id .down a) = (.ok outcome, w₁) := by
    rw [run_perform, performs]
  rw [run_bind_ok runs]
  -- The row is deleted after the action has succeeded, so it is there as long as anything can fail.
  cases outcome with
  | error e =>
      refine .inr ⟨_, _, _, _, run_bind_ok (w₁.run_note .error _) _, stored₁,
        leads.trans (w₁.leadsTo_record _), ?_, fun rest => .failed down ⟨w, ?_⟩ rest _⟩
      · rw [executionsIn_append, executed]
        rfl
      · rw [performs]
  | ok =>
      obtain ⟨e, w₂, fails, kept, armed₁, leads₁⟩ | ⟨es, w₂, deletes, stored₂, leads₁, quiet⟩ :=
        remove_ends stored₁ m.id
      · refine .inr ⟨_, _, _, w₂, run_bind_error fails _, kept ▸ stored₁, leads.trans leads₁, ?_,
          fun rest => .undeleted down rest e (struck fun calm => armed₁ (leads.faults calm)) _⟩
        rw [executionsIn_append, executed]
        rfl
      · refine .inl ⟨⟨m.id, .down, a, .ok ()⟩, _, _, run_bind_ok deletes _, ⟨rfl, rfl, down, rfl⟩,
          stored₂, (leads.trans leads₁).trans (w₂.leadsTo_record _), ?_⟩
        rw [executionsIn_append, executionsIn_append, executed, quiet]
        rfl

/-- Taking migrations back goes through them up to one at which it ends. The rows of those that are
    done are deleted by then. -/
theorem takeBackAll_ends (plan : List Migration) {w : World} {rows : List TrackingRow}
    (stored : w.database.Stores t.table ⟨constrained, rows⟩)
    (reversible : ∀ m ∈ plan, m.isReversible = true) (alone : ∀ m ∈ plan, m.LeavesAlone t.table)
    (rolledBack : List MigrationId) (struck : w.faults ≠ [] → armed) :
    ∃ ended done rest es w', w.run (Runner.takeBackAll t rolledBack plan) = (ended, w') ∧
      Unwound t armed rolledBack plan done rest ended es ∧
      w'.database.Stores t.table ⟨constrained, rowsWithout (idsOf done) rows⟩ ∧
      w.LeadsTo 0 es w' := by
  -- The rows and the ids taken back so far change with every step.
  induction plan generalizing w rows rolledBack with
  | nil =>
      refine ⟨_, [], [], [], w, rfl, .halted (.finished []) rfl, ?_, .refl w⟩
      rwa [idsOf, List.map_nil, rowsWithout_nil]
  | cons m rest ih =>
      rw [Runner.takeBackAll_cons]
      obtain ⟨x, es, w₁, ends, by_x, stored₁, leads, executed⟩ |
        ⟨e, ran, es, w₁, ends, stored₁, leads, executed, halts⟩ :=
        takeBackOne_ends stored (reversible m List.mem_cons_self) (alone m List.mem_cons_self)
          rolledBack struck
      · obtain ⟨ended, done, left, fs, w₂, ends', unwound, stored₂, leads'⟩ :=
          ih stored₁ (fun other inside => reversible other (List.mem_cons_of_mem m inside))
            (fun other inside => alone other (List.mem_cons_of_mem m inside)) (rolledBack ++ [m.id])
            fun armed' => struck fun calm => armed' (leads.faults calm)
        refine ⟨ended, m :: done, left, es ++ fs, w₂, ?_, unwound.cons by_x executed, ?_,
          leads.trans leads'⟩
        · rw [run_bind_ok ends, ends']
        · rw [idsOf, List.map_cons, rowsWithout_cons]
          exact stored₂
      · refine ⟨_, [], m :: rest, es, w₁, run_bind_error ends _, .halted (halts rest) executed, ?_,
          leads⟩
        rwa [idsOf, List.map_nil, rowsWithout_nil]

/-- What a rollback does with its plan. -/
def Runner.unwind (t : Tracker) (plan : List Migration) : Engine RollbackReport := do
  if plan.isEmpty then
    Engine.note .info "Nothing to roll back"
    return ⟨[], [], false⟩
  return ⟨← takeBackAll t [] plan, [], false⟩

def RollbackReport.of (rolledBack : List MigrationId) : RollbackReport :=
  ⟨rolledBack, [], false⟩

theorem rollback_eq (r : Runner) (strategy : RollbackStrategy) :
    r.rollback strategy false = r.planRollback strategy >>= Runner.unwind r.tracker := rfl

theorem unwind_nil (w : World) (t : Tracker) :
    ∃ es w', w.run (Runner.unwind t []) = (.ok (.of []), w') ∧ w'.database = w.database ∧
      w.LeadsTo 0 es w' ∧ executionsIn es = [] :=
  ⟨_, _, rfl, rfl, w.leadsTo_record _, rfl⟩

theorem rollback_ends {r : Runner} {strategy : RollbackStrategy} {w₁ : World}
    (plans : w.run (r.planRollback strategy) = (.ok plan, w₁))
    (stored : w₁.database.Stores r.tracker.table ⟨constrained, rows⟩)
    (alone : r.source.LeavesAlone r.tracker.table) :
    ∃ ended done rest es w', w.run (r.rollback strategy false) = (ended.map .of, w') ∧
      Unwound r.tracker (w.faults ≠ []) [] plan done rest ended es ∧
      w'.database.Stores r.tracker.table ⟨constrained, rowsWithout (idsOf done) rows⟩ ∧
      w.LeadsTo 0 es w' := by
  have idles := idles_of_asks r.tracker.table
    ((admitsMaking_idle r.tracker).planRollback r.source strategy) w
  rw [plans] at idles
  obtain ⟨es, leads, quiet⟩ := idles.leads
  obtain ⟨migrations, records, listed, planned, -⟩ := planRollback_ok plans
  have available := (ids_of_planned planned).2
  rw [rollback_eq, run_bind_ok plans]
  cases plan with
  | nil =>
      obtain ⟨fs, w', ends, kept, leads', quiet'⟩ := unwind_nil w₁ r.tracker
      refine ⟨.ok [], [], [], es ++ fs, w', ends, .prepend (.halted (.finished fs) quiet') quiet, ?_,
        leads.trans leads'⟩
      rw [idsOf, List.map_nil, rowsWithout_nil, kept]
      exact stored
  | cons m others =>
      obtain ⟨ended, done, rest, fs, w', ends, unwound, stored', leads'⟩ :=
        takeBackAll_ends (m :: others) stored (fun m inside => (available m inside).2)
          (fun m inside => alone migrations listed m (available m inside).1) []
          fun armed calm => armed (leads.faults calm)
      refine ⟨ended, done, rest, es ++ fs, w', ?_, unwound.prepend quiet, stored', leads.trans leads'⟩
      rw [Runner.unwind, List.isEmpty_cons, if_neg Bool.false_ne_true, run_bind, ends]
      cases ended <;> rfl

theorem RollbackStrategy.select_sublist (strategy : RollbackStrategy)
    (completed : List MigrationId) : (strategy.select completed).Sublist completed := by
  cases strategy with
  | last => exact List.take_sublist 1 completed
  | downTo id => exact List.filter_sublist
  | steps n => exact List.take_sublist n completed
  | all => exact List.Sublist.refl completed

theorem planned_nothing {migrations : List Migration} {strategy : RollbackStrategy}
    (planned : (strategy.select []).mapM (Runner.findReversible migrations) = .ok plan) :
    plan = [] := by
  have none_selected : strategy.select [] = [] := List.sublist_nil.mp (strategy.select_sublist [])
  rw [none_selected] at planned
  exact (Except.ok.inj planned).symm

/-- What is planned is recorded as completed, and has different ids where the rows have. -/
theorem plan_completed {r : Runner} {strategy : RollbackStrategy}
    (planned : (w.run (r.planRollback strategy)).1 = .ok plan) :
    let rows := w.database.trackingRows r.tracker.table
    (∀ m ∈ plan, ∃ row ∈ rows, row.id = some m.id.text ∧ row.status = some completedStatus) ∧
      ((rows.map TrackingRow.id).Nodup → (idsOf plan).Nodup) := by
  intro rows
  have idles := idles_of_asks r.tracker.table
    ((admitsMaking_idle r.tracker).planRollback r.source strategy) w
  rcases plans : w.run (r.planRollback strategy) with ⟨result, w₁⟩
  rw [plans] at idles planned
  obtain rfl : result = .ok plan := planned
  obtain ⟨migrations, records, -, planned, rfl | ⟨table, stored, decoded⟩⟩ := planRollback_ok plans
  · obtain rfl := planned_nothing planned
    exact ⟨fun m inside => (List.not_mem_nil inside).elim, fun _ => .nil⟩
  have same : table.rows = rows := stored.trackingRows_eq.symm.trans idles.rows
  have ids : (completedRows rows).map TrackingRow.id =
      (records.map MigrationRecord.id).map fun id => some id.text := same ▸ ids_of_decoded decoded
  have selected := (ids_of_planned planned).1
  constructor
  · intro m inside
    have among : m.id ∈ records.map MigrationRecord.id := by
      apply (strategy.select_sublist _).subset
      rw [← selected]
      exact List.mem_map_of_mem inside
    have known : some m.id.text ∈ (completedRows rows).map TrackingRow.id := by
      rw [ids]
      exact List.mem_map_of_mem among
    obtain ⟨row, completed, own_row⟩ := List.mem_map.mp known
    rw [mem_completedRows] at completed
    exact ⟨row, completed.1, own_row, completed.2⟩
  · intro unique
    have distinct := completedRows_unique unique
    rw [ids] at distinct
    rw [selected]
    exact (List.Nodup.of_map _ distinct).sublist (strategy.select_sublist _)

/-- A rollback fails while it is planned, and has done nothing then, or carries out its plan. -/
theorem rollback_cases (r : Runner) (strategy : RollbackStrategy) (w : World)
    (alone : r.source.LeavesAlone r.tracker.table) :
    ∃ result es w', w.run (r.rollback strategy false) = (result, w') ∧ w.LeadsTo 0 es w' ∧
      ((∃ e, (w.run (r.planRollback strategy)).1 = .error e ∧ result = .error e ∧
          executionsIn es = [] ∧ w'.database.trackingRows r.tracker.table =
            w.database.trackingRows r.tracker.table) ∨
        ∃ plan done rest ended, (w.run (r.planRollback strategy)).1 = .ok plan ∧
          Unwound r.tracker (w.faults ≠ []) [] plan done rest ended es ∧ result = ended.map .of ∧
          w'.database.trackingRows r.tracker.table =
            rowsWithout (idsOf done) (w.database.trackingRows r.tracker.table)) := by
  have idles := idles_of_asks r.tracker.table
    ((admitsMaking_idle r.tracker).planRollback r.source strategy) w
  rcases plans : w.run (r.planRollback strategy) with ⟨e | plan, w₁⟩
  · rw [plans] at idles
    obtain ⟨es, leads, quiet⟩ := idles.leads
    exact ⟨_, es, w₁, run_bind_error plans _, leads, .inl ⟨e, rfl, rfl, quiet, idles.rows⟩⟩
  rw [plans] at idles
  obtain ⟨migrations, records, listed, planned, rfl | ⟨⟨constrained, rows⟩, stored, -⟩⟩ :=
    planRollback_ok plans
  · obtain rfl := planned_nothing planned
    obtain ⟨es, leads, quiet⟩ := idles.leads
    obtain ⟨fs, w₂, unwinds, kept, leads', quiet'⟩ := unwind_nil w₁ r.tracker
    refine ⟨_, es ++ fs, w₂, (run_bind_ok plans _).trans unwinds, leads.trans leads', .inr
      ⟨[], [], [], .ok [], rfl, .prepend (.halted (.finished fs) quiet') quiet, rfl, ?_⟩⟩
    rw [kept, idles.rows, idsOf, List.map_nil, rowsWithout_nil]
  · obtain ⟨ended, done, rest, es, w₂, ends, unwound, stored', leads⟩ :=
      rollback_ends plans stored alone
    refine ⟨_, es, w₂, ends, leads, .inr ⟨plan, done, rest, ended, rfl, unwound, rfl, ?_⟩⟩
    rw [stored'.trackingRows_eq, ← idles.rows, stored.trackingRows_eq]

theorem rollback_outcomes {r : Runner} {strategy : RollbackStrategy}
    (alone : r.source.LeavesAlone r.tracker.table)
    (sure : ∀ migrations, r.source.list = .ok migrations → ∀ m ∈ migrations, ∀ a, m.down = some a →
      ∀ w : World, (w.perform m.id .down a).1 = .ok ())
    (events : (w.run (r.rollback strategy false)).2.events = w.events ++ es) :
    ∀ x ∈ executionsIn es, x.outcome = .ok () := by
  obtain ⟨result, fs, w', ends, leads, fails | ⟨plan, done, rest, ended, plans, unwound, -⟩⟩ :=
    rollback_cases r strategy w alone
  all_goals
    rw [ends, leads.events, List.append_cancel_left_eq] at events
    subst events
  · obtain ⟨-, -, -, quiet, -⟩ := fails
    rw [quiet]
    exact fun x inside => (List.not_mem_nil inside).elim
  obtain ⟨parts, exs, ran, executed, taken, halts⟩ := unwound
  have plans : w.run (r.planRollback strategy) = (.ok plan, (w.run (r.planRollback strategy)).2) :=
    Prod.ext plans rfl
  obtain ⟨migrations, listed, known⟩ := plan_from_source plans
  intro x inside
  rw [executed] at inside
  rcases List.mem_append.mp inside with inside | inside
  · obtain ⟨i, bound, rfl⟩ := List.mem_iff_getElem.mp inside
    exact (taken.get (taken.length_eq ▸ bound) bound).outcome
  · cases halts with
    | finished => cases inside
    | @failed m a e down fails others =>
        obtain ⟨w₀, fails⟩ := fails
        have among : m ∈ migrations := known m (parts ▸ List.mem_append_right done List.mem_cons_self)
        cases (sure migrations listed m among a down w₀).symm.trans fails
    | undeleted =>
        obtain rfl := List.mem_singleton.mp inside
        rfl

/-- Whichever calls and actions fail, a rollback that is not dry fails while it is planned, with nothing
    executed and no row touched, or takes back a first part of its plan, one migration after the other
    (`Unwound`), and ends there: with a report when that is all of the plan, and otherwise with the error
    of the next action or of deleting the next row. Except for the rows of the first part, which are
    deleted, all rows stay as they were; those of the other planned migrations are completed. -/
theorem rollback_stepwise (r : Runner) (strategy : RollbackStrategy) (w : World)
    (alone : r.source.LeavesAlone r.tracker.table) :
    let t := r.tracker
    let rows := w.database.trackingRows t.table
    let result := (w.run (r.rollback strategy false)).1
    let w' := (w.run (r.rollback strategy false)).2
    let rows' := w'.database.trackingRows t.table
    ∃ es, w'.events = w.events ++ es ∧
      ((∃ e, (w.run (r.planRollback strategy)).1 = .error e ∧ result = .error e ∧
          executionsIn es = [] ∧ rows' = rows) ∨
        ∃ plan done rest ended, (w.run (r.planRollback strategy)).1 = .ok plan ∧
          Unwound t (w.faults ≠ []) [] plan done rest ended es ∧
          result = ended.map (fun ids => ⟨ids, [], false⟩) ∧
          rows' = rowsWithout (idsOf done) rows ∧
          (∀ m ∈ rest, m.id ∉ idsOf done →
            ∃ row ∈ rows', row.id = some m.id.text ∧ row.status = some completedStatus) ∧
          ((rows.map TrackingRow.id).Nodup → (idsOf plan).Nodup)) := by
  intro t rows result w' rows'
  obtain ⟨result', es, w₁, ends, leads, ⟨e, plans, fails, quiet, kept⟩ |
    ⟨plan, done, rest, ended, plans, unwound, same, left⟩⟩ := rollback_cases r strategy w alone
  all_goals simp only [result, w', rows', ends]
  · exact ⟨es, leads.events, .inl ⟨e, plans, fails, quiet, kept⟩⟩
  obtain ⟨completed, distinct⟩ := plan_completed plans
  refine ⟨es, leads.events, .inr ⟨plan, done, rest, ended, plans, unwound, same, left, ?_, distinct⟩⟩
  intro m inside fresh
  obtain ⟨row, present, own, done_row⟩ :=
    completed m (unwound.parts ▸ List.mem_append_right done inside)
  refine ⟨row, ?_, own, done_row⟩
  rw [left, mem_rowsWithout]
  refine ⟨present, fun id among same => fresh ?_⟩
  rwa [MigrationId.some_text_injective (own.symm.trans same)]

/-- Two migrations are completed, and the call fails that is to delete the row of the second one that is
    taken back. -/
theorem rollback_stepwise_undeleted :
    let first := Sample.first.withDown "c"
    let second := Sample.second.withDown "d"
    let rows : List TrackingRow :=
      [⟨some "001", some "completed", some (.finite 0), some (.finite 5), none, none⟩,
        ⟨some "002", some "completed", some (.finite 5), some (.finite 7), none, none⟩]
    let db : Database := .holding ⟨true, rows⟩
    let r : Runner := ⟨.registry [first, second], ⟨.standard⟩⟩
    let w : World :=
      { World.ticking db with
        faults := [⟨.executeWithParams, 2, .execution "disk full"⟩] }
    let result := (w.run (r.rollback .all false)).1
    let w' := (w.run (r.rollback .all false)).2
    r.source.LeavesAlone r.tracker.table ∧
      ((∃ e, result = .error e ∧ executionsIn w'.events = []) ∨
        ∃ plan done rest ended,
          Unwound r.tracker (w.faults ≠ []) [] plan done rest ended w'.events ∧
          result = ended.map (fun ids => ⟨ids, [], false⟩) ∧
          w'.database.trackingRows r.tracker.table =
            rowsWithout (idsOf done) (w.database.trackingRows r.tracker.table)) := by
  intro first second rows db r w result w'
  have listed : r.source.list = .ok [first, second] := inOrder_of_ascending (by decide)
  have alone : r.source.LeavesAlone r.tracker.table :=
    Source.leavesAlone_silent listed (by decide) r.tracker.table
  obtain ⟨es, events, ends⟩ := rollback_stepwise r .all w alone
  obtain rfl : w'.events = es := events
  refine ⟨alone, ?_⟩
  obtain ⟨e, -, fails, quiet, -⟩ | ⟨plan, done, rest, ended, -, unwound, same, left, -⟩ := ends
  · exact .inl ⟨e, fails, quiet⟩
  · exact .inr ⟨plan, done, rest, ended, unwound, same, left⟩

/-- In a table that was made without constraints, one id can have two rows. Then the first step of a
    rollback deletes both, and the row is gone of a migration at which the second step fails. -/
theorem rollback_of_doubled_row :
    let m : Migration := ⟨⟨"001", by decide⟩, none, .procedure "a" [],
      some (.procedure "b" [.done, .failed (.execution "no space")])⟩
    let done (finish : Int) : Stage := .completed (.ofMicros 0) (.ofMicros finish) none
    let rows : List TrackingRow := [(done 7).row m.id, (done 5).row m.id]
    let db : Database := .holding ⟨false, rows⟩
    let r : Runner := ⟨.registry [m], ⟨.standard⟩⟩
    let w := World.ticking db
    let w' := (w.run (r.rollback .all false)).2
    (∀ row ∈ rows, ∃ record, row.decode = .ok record) ∧ r.source.LeavesAlone r.tracker.table ∧
      (w.run (r.planRollback .all)).1 = .ok [m, m] ∧
      (w.run (r.rollback .all false)).1 =
        .error (.execution ⟨m.id, .down, .completed, DbError.message (.execution "no space"), [m.id]⟩) ∧
      ¬∃ row ∈ w'.database.trackingRows r.tracker.table,
        row.id = some m.id.text ∧ row.status = some completedStatus := by
  intro m done rows db r w w'
  -- Sorting does not reduce by itself, so only what comes after planning is evaluated.
  let planned (es : List Event) : World := { w with events := es }
  have stopped (es : List Event) : ((planned es).run (Runner.unwind ⟨.standard⟩ [m, m])).1 =
      .error (.execution ⟨m.id, .down, .completed, DbError.message (.execution "no space"), [m.id]⟩) := by
    with_unfolding_all rfl
  have gone (es : List Event) :
      ((planned es).run (Runner.unwind ⟨.standard⟩ [m, m])).2.database.trackingRows .standard = [] := by
    with_unfolding_all rfl
  have listed : r.source.list = .ok [m] := inOrder_of_ascending (by decide)
  have stored : w.database.Stores r.tracker.table ⟨false, rows⟩ := .holding _
  have present : w.database.trackingRows r.tracker.table = rows := stored.trackingRows_eq
  have decodes : ∀ row ∈ rows, ∃ record, row.decode = .ok record := by
    simp only [rows, List.mem_cons, List.not_mem_nil, or_false]
    rintro row (rfl | rfl)
    · exact ⟨_, (done 7).decode_row m.id⟩
    · exact ⟨_, (done 5).decode_row m.id⟩
  have decoded : (completedRows rows).mapM Tracker.decodeRow =
      .ok [(done 7).record m.id, (done 5).record m.id] := by
    have sorted : completedRows rows = rows := List.mergeSort_of_pairwise (by decide)
    simp only [sorted, rows, List.mapM_cons, Tracker.decodeRow, Stage.decode_row]
    rfl
  rw [← present] at decoded
  obtain ⟨es, plans⟩ := planRollback_reads (w := w) rfl listed (.inr ⟨_, stored⟩)
    (present ▸ decodes) decoded .all
  have plans : w.run (r.planRollback .all) = (.ok [m, m], planned es) := plans
  have ends : w.run (r.rollback .all false) = (planned es).run (Runner.unwind ⟨.standard⟩ [m, m]) :=
    run_bind_ok plans _
  refine ⟨decodes, Source.leavesAlone_silent listed (by decide) r.tracker.table, ?_, ?_, ?_⟩
  · rw [plans]
  · rw [ends, stopped]
  · have none_left : w'.database.trackingRows r.tracker.table = [] := by
      simp only [w', ends]
      exact gone es
    simp [none_left]

end SchemaMigration
