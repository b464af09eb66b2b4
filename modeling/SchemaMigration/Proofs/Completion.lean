import SchemaMigration.Proofs.Runs
import SchemaMigration.Proofs.Stages

/-! # Runs without failing calls

When nothing stands in the way and no call fails, a run is a function of the rows there were and of what
the actions return: it applies all it has selected, or all before the first action that fails.
`Undisturbed` lists these two ends.
-/

namespace SchemaMigration

/-- The rows of migrations that are applied one after the other, from a reading of the clock on:
    `appliedRow` for each. -/
def appliedRows (clock : Nat → Time.Reading) : Nat → List Migration → List TrackingRow
  | _, [] => []
  | n, m :: rest => appliedRow m (clock n) (clock (n + 1)) :: appliedRows clock (n + 2) rest

section
variable {clock : Nat → Time.Reading} {n : Nat} {todo : List Migration} {row : TrackingRow}

theorem mem_appliedRows (inside : row ∈ appliedRows clock n todo) :
    ∃ m ∈ todo, ∃ k, n ≤ k ∧ k + 1 < n + 2 * todo.length ∧
      row = appliedRow m (clock k) (clock (k + 1)) := by
  induction todo generalizing n with
  | nil => cases inside
  | cons m rest ih =>
      rw [List.length_cons]
      rcases List.mem_cons.mp inside with rfl | later
      · exact ⟨m, List.mem_cons_self, n, n.le_refl, by omega, rfl⟩
      · obtain ⟨other, among, k, after, bound, same⟩ := ih later
        exact ⟨other, List.mem_cons_of_mem m among, k, by omega, by omega, same⟩

theorem ids_appliedRows (clock : Nat → Time.Reading) (n : Nat) (todo : List Migration) :
    (appliedRows clock n todo).map TrackingRow.id = (idsOf todo).map fun id => some id.text := by
  induction todo generalizing n with
  | nil => rfl
  | cons m rest ih => exact congrArg (some m.id.text :: ·) (ih (n + 2))

theorem decodes_applied {rows : List TrackingRow} (decodes : ∀ row ∈ rows, ∃ r, row.decode = .ok r)
    (clock : Nat → Time.Reading) (n : Nat) (todo : List Migration) :
    ∀ row ∈ rows ++ appliedRows clock n todo, ∃ r, row.decode = .ok r := by
  intro row inside
  rcases List.mem_append.mp inside with old | new
  · exact decodes row old
  · obtain ⟨m, -, k, -, -, rfl⟩ := mem_appliedRows new
    exact ⟨_, Stage.decode_row m.id (.completed _ _ (some m.checksum))⟩

end

/-- Without failing calls, a `Course` goes through or ends at an action that fails. -/
theorem Course.calm {clock : Nat → Time.Reading} {armed : Prop} {n : Nat}
    {applied : List MigrationId} {todo : List Migration}
    {result : Except EngineError (List MigrationId)} {new : List TrackingRow}
    {exs : List Execution} (h : Course clock armed n applied todo result new exs)
    (calm : ¬armed) :
    (result = .ok (applied ++ idsOf todo) ∧ new = appliedRows clock n todo ∧
      exs = todo.map (·.forward (.ok ()))) ∨
    ∃ before m after e, todo = before ++ m :: after ∧
      result =
        .error (.execution ⟨m.id, .up, .failed, DbError.message e, applied ++ idsOf before⟩) ∧
      new = appliedRows clock n before ++ [failedRow m.id (clock (n + 2 * before.length))
        (clock (n + 2 * before.length + 1)) e.message] ∧
      exs = before.map (·.forward (.ok ())) ++ [m.forward (.error e)] := by
  induction h with
  | @finished n applied => exact .inl ⟨by rw [idsOf, List.map_nil, List.append_nil], rfl, rfl⟩
  | @stopped n applied m rest e rows exs last =>
      cases last with
      | failed e =>
          refine .inr ⟨[], m, rest, e, rfl, ?_, rfl, rfl⟩
          rw [idsOf, List.map_nil, List.append_nil]
      | unbegun e struck => exact (calm struck).elim
      | unrecorded outcome e struck => exact (calm struck).elim
  | @applied n applied m rest result rows exs next ih =>
      rcases ih with ⟨rfl, rfl, rfl⟩ | ⟨before, other, after, e, rfl, rfl, rfl, rfl⟩
      · refine .inl ⟨?_, rfl, rfl⟩
        rw [List.append_assoc]
        rfl
      · refine .inr ⟨m :: before, other, after, e, rfl, ?_, ?_, rfl⟩
        · rw [List.append_assoc]
          rfl
        · rw [List.length_cons, Nat.mul_add, Nat.mul_one, ← Nat.add_assoc, Nat.add_right_comm n]
          rfl

/-- How a run can end that is prepared and that no failing call disturbs: with a result, with rows that
    are added, and with executions. The clock is read for the first time at `n`. -/
inductive Undisturbed (clock : Nat → Time.Reading) (n : Nat) (migrations : List Migration)
    (records : List MigrationRecord) (todo : List Migration) :
    Except EngineError RunReport → List TrackingRow → List Execution → Prop where
  | whole :
      Undisturbed clock n migrations records todo
        (.ok (Runner.reportOn migrations records (idsOf todo))) (appliedRows clock n todo)
        (todo.map (·.forward (.ok ())))
  | halted (before : List Migration) (m : Migration) (after : List Migration) (e : DbError)
      (parts : todo = before ++ m :: after) :
      Undisturbed clock n migrations records todo
        (.error (.execution ⟨m.id, .up, .failed, e.message, idsOf before⟩))
        (appliedRows clock n before ++ [failedRow m.id (clock (n + 2 * before.length))
          (clock (n + 2 * before.length + 1)) e.message])
        (before.map (·.forward (.ok ())) ++ [m.forward (.error e)])

/-- A run that gets past its preparation, with no failing call. -/
theorem run_undisturbed {r : Runner} {o : RunOptions} {w : World} {migrations : List Migration}
    {records : List MigrationRecord} (live : o.dryRun = false)
    (alone : r.source.LeavesAlone r.tracker.table) (calm : w.faults = [])
    (prepares : (w.run (r.prepare o)).1 = .ok (migrations, records)) :
    let rows := w.database.trackingRows r.tracker.table
    r.Prepared o rows migrations records ∧ ∃ result new n es constrained w',
      w.run (r.run o) = (result, w') ∧
      Undisturbed w.clock w.readings migrations records (r.selection o rows) result new
        (executionsIn es) ∧
      w'.database.Stores r.tracker.table ⟨constrained, rows ++ new⟩ ∧ w.LeadsTo n es w' ∧
      (result.toBool = true → n = 2 * (r.selection o rows).length) := by
  intro rows
  obtain ⟨result, w₁, ends, idles, given⟩ := Runner.prepare_ends r o w
  obtain rfl : result = .ok (migrations, records) := (congrArg Prod.fst ends).symm.trans prepares
  obtain ⟨prepared, ⟨constrained, rows₁⟩, stored⟩ := given migrations records rfl
  obtain rfl : rows₁ = rows := stored.trackingRows_eq.symm.trans idles.rows
  obtain ⟨es, leads, quiet⟩ := idles.leads
  obtain ⟨outcome, new, n, fs, w₂, carries, course, stored₂, leads₂, -, count⟩ :=
    Runner.carryOut_ends stored prepared alone (fun struck : w₁.faults ≠ [] => struck)
  rw [leads.clock, leads.readings] at course
  have executed : executionsIn (es ++ fs) = executionsIn fs := by
    rw [executionsIn_append, quiet, List.nil_append]
  refine ⟨prepared, outcome.map (Runner.reportOn migrations records), new, _, es ++ fs, constrained,
    w₂, ?_, ?_, stored₂, leads.trans leads₂, ?_⟩
  · rw [Runner.run_eq live, World.run_bind_ok ends, carries]
  · rw [executed]
    rcases course.calm fun armed => armed (leads.faults calm) with ⟨rfl, rfl, same⟩ |
      ⟨before, m, after, e, parts, rfl, rfl, same⟩
    · rw [same]
      exact .whole
    · rw [same]
      exact .halted before m after e parts
  · intro succeeds
    cases outcome with
    | error e => cases succeeds
    | ok applied => rw [Nat.zero_add, count rfl]

namespace Runner

variable {r : Runner} {o : RunOptions} {w w₁ : World} {report : RunReport}

theorem prepares_of_run (live : o.dryRun = false) (ran : w.run (r.run o) = (.ok report, w₁)) :
    ∃ migrations records, (w.run (r.prepare o)).1 = .ok (migrations, records) := by
  rw [run_eq live] at ran
  obtain ⟨⟨migrations, records⟩, w', ends, -⟩ := World.bind_ok_inv ran
  exact ⟨migrations, records, congrArg Prod.fst ends⟩

theorem whole_of_run (live : o.dryRun = false) (alone : r.source.LeavesAlone r.tracker.table)
    (calm : w.faults = []) (ran : w.run (r.run o) = (.ok report, w₁)) :
    let rows := w.database.trackingRows r.tracker.table
    let todo := r.selection o rows
    ∃ migrations records constrained es, r.Prepared o rows migrations records ∧
      report = reportOn migrations records (idsOf todo) ∧
      w₁.database.Stores r.tracker.table
        ⟨constrained, rows ++ appliedRows w.clock w.readings todo⟩ ∧
      w.LeadsTo (2 * todo.length) es w₁ ∧ executionsIn es = todo.map (·.forward (.ok ())) := by
  intro rows todo
  obtain ⟨migrations, records, prepares⟩ := prepares_of_run live ran
  obtain ⟨prepared, result, new, n, es, constrained, w', runs, course, stored, leads, count⟩ :=
    run_undisturbed live alone calm prepares
  obtain ⟨rfl, rfl⟩ := Prod.mk.inj (runs.symm.trans ran)
  rw [count rfl] at leads
  refine ⟨migrations, records, constrained, es, prepared, ?_⟩
  generalize same : Except.ok report = result at course
  generalize executionsIn es = exs at course
  cases course with
  | whole => exact ⟨Except.ok.inj same, stored, leads, rfl⟩
  | halted => cases same

end Runner

theorem Recorded.reportOn_eq {rows : List TrackingRow} {records : List MigrationRecord}
    (h : Recorded rows records) (legible : Legible rows) (migrations : List Migration)
    (applied : List MigrationId) :
    Runner.reportOn migrations records applied =
      { applied
        planned := []
        skippedDirty := idsOf (migrations.filter fun m => (stateIn rows m.id).isDirty)
        drifted := idsOf (migrations.filter (hasDrifted rows))
        alreadyApplied := migrations.countP fun m => stateIn rows m.id = .completed
        dryRun := false } := by
  have drifted : (migrations.filterMap fun m => (drift? records m).map ChecksumMismatch.id) =
      idsOf (migrations.filter (hasDrifted rows)) := by
    simp only [h.drift?_id legible]
    induction migrations with
    | nil => rfl
    | cons m rest ih =>
        cases changed : hasDrifted rows m with
        | false => simp [changed, ih]
        | true => simp [changed, ih, idsOf]
  simp only [Runner.reportOn, dirtyOf, h.stateOf_eq legible, drifted]

/-- A run on a legible table with nothing in its way and with no failing call applies the migrations
    without a row in ascending order, as far as its target reaches. When every action succeeds, the
    report tells what was applied and what was passed over, and the table has a completed row more
    for each of them. Otherwise the run ends at the first action that fails, with an error that names
    the ones that are done, and with a failed row after theirs. -/
theorem run_computes (r : Runner) (o : RunOptions) (w : World) (migrations : List Migration)
    (live : o.dryRun = false) (listed : r.source.list = .ok migrations)
    (trackable : w.database.CanTrack r.tracker.table)
    (legible : Legible (w.database.trackingRows r.tracker.table))
    (cleared : Runner.Cleared o (w.database.trackingRows r.tracker.table) migrations)
    (alone : r.source.LeavesAlone r.tracker.table) (calm : w.faults = []) :
    let rows := w.database.trackingRows r.tracker.table
    let fresh := migrations.filter fun m => rows.all fun row => row.id ≠ some m.id.text
    let selected := match o.target with
      | .all => fresh
      | .upTo id => fresh.filter fun m => m.id ≤ id
      | .steps n => fresh.take n
    let result := (w.run (r.run o)).1
    let w' := (w.run (r.run o)).2
    Ascending selected ∧ ∃ es, w'.events = w.events ++ es ∧
      ((executionsIn es = selected.map (·.forward (.ok ())) ∧
        result = .ok
          { applied := idsOf selected
            planned := []
            skippedDirty := idsOf (migrations.filter fun m => (stateIn rows m.id).isDirty)
            drifted := idsOf (migrations.filter (hasDrifted rows))
            alreadyApplied := migrations.countP fun m => stateIn rows m.id = .completed
            dryRun := false } ∧
        w'.database.trackingRows r.tracker.table =
          rows ++ appliedRows w.clock w.readings selected) ∨
      ∃ before m after e, selected = before ++ m :: after ∧
        executionsIn es = before.map (·.forward (.ok ())) ++ [m.forward (.error e)] ∧
        result = .error (.execution ⟨m.id, .up, .failed, e.message, idsOf before⟩) ∧
        w'.database.trackingRows r.tracker.table =
          rows ++ (appliedRows w.clock w.readings before ++
            [failedRow m.id (w.clock (w.readings + 2 * before.length))
              (w.clock (w.readings + 2 * before.length + 1)) e.message])) := by
  intro rows fresh selected result w'
  have same_fresh : rowless rows migrations = fresh := by
    apply List.filter_congr
    intro m _
    rw [Bool.eq_iff_iff, Bool.not_eq_true', List.any_eq_false, List.all_eq_true]
    simp only [TrackingRow.hasId_iff, decide_eq_true_iff, ne_eq]
  have same_selected : r.selection o rows = selected := by
    rw [Runner.selection_eq listed, same_fresh]
    unfold selected
    cases o.target <;> rfl
  have ascending := r.selection_ascending o rows
  rw [same_selected] at ascending
  obtain ⟨result', new, es, w'', ends, final, kept, events, -⟩ := r.run_ends live w alone
  have same_result : result = result' := congrArg Prod.fst ends
  have same_world : w' = w'' := congrArg Prod.snd ends
  rw [same_result, same_world]
  refine ⟨ascending, es, events, ?_⟩
  rw [kept]
  generalize executionsIn es = exs at final ⊢
  cases final with
  | unprepared e w₁ fails =>
      obtain ⟨records, w₁, succeeds⟩ :=
        Runner.prepare_succeeds listed trackable legible cleared calm
      rw [succeeds] at fails
      cases fails
  | @prepared migrations' records outcome new exs listed' recorded course =>
      obtain rfl : migrations = migrations' := Except.ok.inj (listed.symm.trans listed')
      rcases course.calm fun armed => armed calm with ⟨rfl, rfl, rfl⟩ |
        ⟨before, m, after, e, parts, rfl, rfl, rfl⟩
      · rw [same_selected]
        refine .inl ⟨rfl, ?_, rfl⟩
        exact congrArg Except.ok (recorded.reportOn_eq legible migrations _)
      · rw [same_selected] at parts
        exact .inr ⟨before, m, after, e, parts, rfl, rfl, rfl⟩

open Sample

/-- One of three migrations is completed, and the last one fails. -/
theorem run_computes_failing :
    let third : Migration :=
      ⟨⟨"003", by decide⟩, none, .procedure "c" [.failed (.execution "no space")], none⟩
    let done : TrackingRow :=
      ⟨some "001", some "completed", some (.finite 0), some (.finite 5), some "c1", none⟩
    let db : Database := .holding ⟨true, [done]⟩
    let r : Runner := ⟨.registry [first, second, third], ⟨.standard⟩⟩
    let o : RunOptions := {}
    let w := World.ticking db
    let result := (w.run (r.run o)).1
    (o.dryRun = false ∧ r.source.list = .ok [first, second, third] ∧
      w.database.CanTrack r.tracker.table ∧ Legible [done] ∧
      Runner.Cleared o [done] [first, second, third] ∧
      r.source.LeavesAlone r.tracker.table ∧ w.faults = []) ∧
    ((∃ report, result = .ok report ∧ report.applied = [second.id, third.id]) ∨
      ∃ before m after e, [second, third] = before ++ m :: after ∧
        result = .error (.execution ⟨m.id, .up, .failed, DbError.message e, idsOf before⟩)) := by
  intro third done db r o w result
  have listed : r.source.list = .ok [first, second, third] := inOrder_of_ascending (by decide)
  have stored : w.database.Stores r.tracker.table ⟨true, [done]⟩ := .holding _
  have rows : w.database.trackingRows r.tracker.table = [done] := stored.trackingRows_eq
  have legible : Legible [done] := by
    refine ⟨?_, by decide⟩
    intro row inside
    obtain rfl := List.mem_singleton.mp inside
    exact ⟨⟨⟨"001", by decide⟩, .completed, ⟨0, 0⟩, some ⟨0, 5000⟩, some "c1", none⟩, by decide +kernel⟩
  have cleared : Runner.Cleared o [done] [first, second, third] := by
    refine ⟨.inr fun row inside => ?_, fun id same => ?_, fun same => ?_⟩
    · obtain rfl := List.mem_singleton.mp inside
      decide
    · cases same
    · cases same
  have alone : r.source.LeavesAlone r.tracker.table :=
    Source.leavesAlone_silent listed (by decide) r.tracker.table
  have computes := run_computes r o w [first, second, third] rfl listed (.inl ⟨_, stored⟩)
    (rows ▸ legible) (rows ▸ cleared) alone rfl
  simp only [rows] at computes
  obtain ⟨-, es, -, ⟨-, whole, -⟩ | ⟨before, m, after, e, parts, -, halted, -⟩⟩ := computes
  · exact ⟨⟨rfl, listed, .inl ⟨_, stored⟩, legible, cleared, alone, rfl⟩, .inl ⟨_, whole, rfl⟩⟩
  · exact ⟨⟨rfl, listed, .inl ⟨_, stored⟩, legible, cleared, alone, rfl⟩,
      .inr ⟨before, m, after, e, parts, halted⟩⟩

end SchemaMigration
