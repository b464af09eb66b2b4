import SchemaMigration.Proofs.Forward
import SchemaMigration.Proofs.Order
import SchemaMigration.Proofs.Preparation

/-! # Runs

A run prepares itself and then applies what it has selected, in ascending order. Whatever call fails, it
leaves a consistent table behind: a finished prefix, at most one migration at which it stopped, and the
rest untouched. `RunEnd` tells how it can end. When no call fails, result and table are a function of the
rows there were and of what the actions return.
-/

namespace SchemaMigration

namespace Runner

/-- The migrations that a run applies unless something stops it: of those that are `rowless`, the ones
    that its target selects. -/
def selection (r : Runner) (o : RunOptions) (rows : List TrackingRow) : List Migration :=
  match r.source.list with
  | .ok migrations => o.target.select (rowless rows migrations)
  | .error _ => []

section
variable {r : Runner} {o : RunOptions} {rows : List TrackingRow}

theorem selection_eq {migrations : List Migration} (listed : r.source.list = .ok migrations) :
    r.selection o rows = o.target.select (rowless rows migrations) := by
  simp only [selection, listed]

theorem selection_ascending (r : Runner) (o : RunOptions) (rows : List TrackingRow) :
    Ascending (r.selection o rows) := by
  unfold selection
  split
  · rename_i migrations listed
    exact Ascending.select ((Source.list_ascending listed).filter _) o.target
  · exact .nil

theorem selection_source {m : Migration} (inside : m ∈ r.selection o rows) :
    rows.find? (·.hasId m.id.text) = none ∧ ∃ migrations, r.source.list = .ok migrations ∧
      m ∈ migrations := by
  unfold selection at inside
  split at inside
  · rename_i migrations listed
    have among : m ∈ rowless rows migrations := RunTarget.mem_of_select inside
    obtain ⟨from_source, free⟩ := List.mem_filter.mp among
    refine ⟨List.find?_eq_none.mpr fun row present own => ?_, migrations, listed, from_source⟩
    rw [Bool.not_eq_true', List.any_eq_false] at free
    exact free row present own
  · cases inside

end

/-- How a run can end: with a result, with rows that are added, and with executions. -/
inductive RunEnd (r : Runner) (o : RunOptions) (w : World) :
    Except EngineError RunReport → List TrackingRow → List Execution → Prop where
  | unprepared (e : EngineError) (w' : World) (ends : w.run (r.prepare o) = (.error e, w')) :
      RunEnd r o w (.error e) [] []
  | prepared {migrations : List Migration} {records : List MigrationRecord}
      {outcome : Except EngineError (List MigrationId)} {new : List TrackingRow}
      {exs : List Execution} (listed : r.source.list = .ok migrations)
      (recorded : Recorded (w.database.trackingRows r.tracker.table) records)
      (course : Course w.clock (w.faults ≠ []) w.readings []
        (r.selection o (w.database.trackingRows r.tracker.table)) outcome new exs) :
      RunEnd r o w (outcome.map (reportOn migrations records)) new exs

theorem carryOut_ends {r : Runner} {o : RunOptions} {w : World} {constrained : Bool}
    {rows : List TrackingRow} {migrations : List Migration} {records : List MigrationRecord}
    {armed : Prop} (stored : w.database.Stores r.tracker.table ⟨constrained, rows⟩)
    (prepared : r.Prepared o rows migrations records)
    (alone : r.source.LeavesAlone r.tracker.table) (struck : w.faults ≠ [] → armed) :
    ∃ outcome new n es w',
      w.run (carryOut r.tracker o (migrations, records)) =
        (outcome.map (reportOn migrations records), w') ∧
      Course w.clock armed w.readings [] (r.selection o rows) outcome new (executionsIn es) ∧
      w'.database.Stores r.tracker.table ⟨constrained, rows ++ new⟩ ∧
      w.LeadsTo n es w' ∧ Announced r.tracker es ∧
      (outcome.toBool = true → n = 2 * (r.selection o rows).length) := by
  -- The run goes by the records; its selection is said in terms of the rows.
  have selected : o.target.select (pendingOf records migrations) = r.selection o rows := by
    rw [prepared.recorded.pendingOf_eq, selection_eq prepared.listed]
  have alone' (m : Migration) (inside : m ∈ r.selection o rows) :
      m.up.LeavesAlone r.tracker.table := by
    obtain ⟨-, ms, listed, from_source⟩ := selection_source inside
    exact alone ms listed m from_source .up m.up rfl
  obtain ⟨outcome, new, exs, n, es, w₁, applies, course, stored', leads, executed, announced, count⟩ :=
    applyAll_ends (r.selection o rows) stored (fun m inside => (selection_source inside).1)
      (r.selection_ascending o rows).distinct alone' [] struck
  subst executed
  rw [carryOut, selected]
  cases outcome with
  | error e =>
      refine ⟨_, new, n, es, w₁, World.run_bind_error applies _, course, stored', leads, announced, ?_⟩
      intro succeeds
      cases succeeds
  | ok applied =>
      obtain ⟨fs, w₂, concludes, kept, leads', silent⟩ :=
        conclude_ends w₁ (reportOn migrations records applied)
      refine ⟨.ok applied, new, _, es ++ fs, w₂, ?_, ?_, kept ▸ stored', leads.trans leads',
        announced.append (.of_quiet silent), fun _ => count rfl⟩
      · rw [World.run_bind_ok applies, concludes]
        rfl
      · rwa [executionsIn_append, silent, List.append_nil]

/-- A run and what it leaves behind. When it succeeds, it has read the clock twice for each migration
    that it applied. -/
theorem run_course (r : Runner) {o : RunOptions} (live : o.dryRun = false) (w : World)
    (alone : r.source.LeavesAlone r.tracker.table) :
    ∃ result new n es w', w.run (r.run o) = (result, w') ∧
      RunEnd r o w result new (executionsIn es) ∧
      w'.database.trackingRows r.tracker.table =
        w.database.trackingRows r.tracker.table ++ new ∧
      w.LeadsTo n es w' ∧ Announced r.tracker es ∧
      (result.toBool = true →
        n = 2 * (r.selection o (w.database.trackingRows r.tracker.table)).length ∧
        ∃ table, w'.database.Stores r.tracker.table table) := by
  obtain ⟨result, w₁, prepares, idles, given⟩ := prepare_ends r o w
  obtain ⟨es, leads, quiet⟩ := idles.leads
  rw [run_eq live]
  cases result with
  | error e =>
      refine ⟨_, [], 0, es, w₁, World.run_bind_error prepares _, ?_, ?_, leads, .of_quiet quiet, nofun⟩
      · rw [quiet]
        exact .unprepared e w₁ prepares
      · rw [idles.rows, List.append_nil]
  | ok both =>
      obtain ⟨migrations, records⟩ := both
      obtain ⟨prepared, ⟨constrained, rows⟩, stored⟩ := given migrations records rfl
      have same : w.database.trackingRows r.tracker.table = rows :=
        idles.rows.symm.trans stored.trackingRows_eq
      subst same
      have armed : w₁.faults ≠ [] → w.faults ≠ [] := fun armed calm => armed (leads.faults calm)
      obtain ⟨outcome, new, n, fs, w₂, ends, course, stored', leads', announced, count⟩ :=
        carryOut_ends stored prepared alone armed
      rw [leads.clock, leads.readings] at course
      refine ⟨_, new, _, es ++ fs, w₂, (World.run_bind_ok prepares _).trans ends, ?_,
        stored'.trackingRows_eq, leads.trans leads', (Announced.of_quiet quiet).append announced, ?_⟩
      · rw [executionsIn_append, quiet]
        exact .prepared prepared.listed prepared.recorded course
      · intro succeeds
        cases outcome with
        | error e => cases succeeds
        | ok applied => exact ⟨(Nat.zero_add n).trans (count rfl), _, stored'⟩

theorem run_ends (r : Runner) {o : RunOptions} (live : o.dryRun = false) (w : World)
    (alone : r.source.LeavesAlone r.tracker.table) :
    ∃ result new es w', w.run (r.run o) = (result, w') ∧ RunEnd r o w result new (executionsIn es) ∧
      w'.database.trackingRows r.tracker.table =
        w.database.trackingRows r.tracker.table ++ new ∧
      w'.events = w.events ++ es ∧ Announced r.tracker es := by
  obtain ⟨result, new, n, es, w', ends, final, rows, leads, announced, -⟩ := run_course r live w alone
  exact ⟨result, new, es, w', ends, final, rows, leads.events, announced⟩

theorem run_calm {r : Runner} {o : RunOptions} {w : World} (live : o.dryRun = false)
    (alone : r.source.LeavesAlone r.tracker.table) (calm : w.faults = []) :
    (w.run (r.run o)).2.faults = [] := by
  obtain ⟨result, new, n, es, w', ends, -, -, leads, -⟩ := r.run_course live w alone
  rw [ends]
  exact leads.faults calm

theorem run_outcomes {r : Runner} {o : RunOptions} {w : World} {es : List Event}
    (live : o.dryRun = false) (alone : r.source.LeavesAlone r.tracker.table) (calm : w.faults = [])
    (sure : ∀ migrations, r.source.list = .ok migrations → ∀ m ∈ migrations, ∀ w : World,
      (w.perform m.id .up m.up).1 = .ok ())
    (events : (w.run (r.run o)).2.events = w.events ++ es) :
    ∀ x ∈ executionsIn es, x.outcome = .ok () := by
  obtain ⟨result, new, fs, w', ends, final, -, events', -⟩ := r.run_ends live w alone
  rw [ends, events', List.append_cancel_left_eq] at events
  subst events
  generalize executionsIn fs = exs at final
  cases final with
  | unprepared => exact fun x inside => (List.not_mem_nil inside).elim
  | prepared listed recorded course =>
      refine course.outcomes (not_not.mpr calm) fun m inside => ?_
      obtain ⟨-, migrations, listed, among⟩ := selection_source inside
      exact sure migrations listed m among

end Runner

end SchemaMigration
