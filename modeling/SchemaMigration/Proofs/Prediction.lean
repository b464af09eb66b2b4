import SchemaMigration.Proofs.Completion
import SchemaMigration.Proofs.Reading

/-! # Dry runs

A dry run reads the table as it finds it, where a real run makes the table before it reads. Both go by
one `prospect` of the database, so that the dry run refuses what the real run refuses and plans what the
real run then applies.
-/

namespace SchemaMigration

theorem count_states (f : Migration → MigrationState) (migrations : List Migration) :
    (migrations.countP fun m => f m = .completed) +
      (migrations.filter fun m => (f m).isDirty).length +
      (migrations.filter fun m => f m = .pending).length = migrations.length := by
  induction migrations with
  | nil => rfl
  | cons m rest ih =>
      have dirty : (f m).isDirty = decide (f m = .inProgress ∨ f m = .failed) := by
        cases f m <;> rfl
      simp only [List.countP_cons, List.filter_cons, dirty, List.length_cons]
      cases f m <;> simp <;> omega

namespace Runner

theorem foresee_reads {r : Runner} {w : World} (o : RunOptions) (calm : w.faults = []) :
    w.Reads (r.foresee o) (r.prospect o w.database) := by
  refine (discover_reads w r).bind fun migrations es => ?_
  have known : World.Reads { w with events := es } r.tracker.listIfCreated
      (r.tracker.knownIn w.database) := Tracker.listIfCreated_reads calm
  refine known.bind fun records es => ?_
  refine (check_reads _ o migrations records).bind fun _ es => ?_
  exact World.reads_value _ (.ok (migrations, records))

theorem dry_run_reads {r : Runner} {o : RunOptions} {w : World} (dry : o.dryRun = true)
    (calm : w.faults = []) :
    w.Reads (r.run o) ((r.prospect o w.database).map (forecast o)) := by
  rw [run_eq_dry dry]
  have tells (prepared : List Migration × List MigrationRecord) (es : List Event) :
      World.Reads { w with events := es } (tell o prepared) (.ok (forecast o prepared)) := by
    have notes := World.reads_forM (w := { w with events := es })
      fun (m : Migration) (_ : m ∈ o.target.select (pendingOf prepared.2 prepared.1)) fs =>
        World.reads_note { w with events := fs } .info ("Would apply " ++ m.id.text)
    exact notes.bind_ok fun fs => World.reads_value _ (.ok (forecast o prepared))
  have runs := (foresee_reads (r := r) o calm).bind fun prepared es => tells prepared es
  cases foreseen : r.prospect o w.database with
  | error e => rwa [foreseen] at runs
  | ok prepared => rwa [foreseen] at runs

theorem dry_run_ends {r : Runner} {o : RunOptions} {w : World} (dry : o.dryRun = true)
    (calm : w.faults = []) :
    ∃ es, w.run (r.run o) =
        ((r.prospect o w.database).map (forecast o), { w with events := w.events ++ es }) ∧
      executionsIn es = [] := by
  obtain ⟨events, ends⟩ := dry_run_reads (r := r) dry calm
  have asks : Engine.Asks Request.IsIdle (r.run o) :=
    asks_dryRun (admitsMaking_idle r.tracker).toAdmitsLooking dry
  obtain ⟨es, leads, quiet⟩ := (World.idles_of_asks r.tracker.table asks w).leads
  rw [ends] at leads
  have appended : events = w.events ++ es := leads.events
  exact ⟨es, appended ▸ ends, quiet⟩

theorem prospect_dryRun (r : Runner) (o : RunOptions) (dry : Bool) (db : Database) :
    r.prospect { o with dryRun := dry } db = r.prospect o db :=
  rfl

theorem forecast_counts (o : RunOptions) (all : o.target = .all) (migrations : List Migration)
    (records : List MigrationRecord) :
    let report := forecast o (migrations, records)
    report.alreadyApplied + report.skippedDirty.length + report.planned.length =
      migrations.length := by
  simp only [forecast, reportOn, all, RunTarget.select, idsOf, List.length_map]
  exact count_states (fun m => stateOf records m.id) migrations

end Runner

/-- A dry run executes nothing and leaves the database as it is. It fails as the real run from the same
    state does. When it succeeds, the real run applies what was planned and reports the same
    otherwise, or it ends at the first of the planned migrations whose action fails. -/
theorem dry_run_predicts (r : Runner) (o : RunOptions) (w : World)
    (makeable : w.database.CanMake r.tracker.table)
    (alone : r.source.LeavesAlone r.tracker.table) (calm : w.faults = []) :
    let dry := w.run (r.run { o with dryRun := true })
    let live := w.run (r.run { o with dryRun := false })
    (∃ es, dry.2 = { w with events := w.events ++ es } ∧ executionsIn es = []) ∧
    (∀ e, dry.1 = .error e → live.1 = .error e) ∧
    ∀ report, dry.1 = .ok report →
      report.applied = [] ∧
      (live.1 = .ok { report with applied := report.planned, planned := [], dryRun := false } ∨
        ∃ completed id others reason, report.planned = completed ++ id :: others ∧
          live.1 = .error (.execution ⟨id, .up, .failed, reason, completed⟩)) ∧
      (o.target = .all → ∃ migrations, r.source.list = .ok migrations ∧
        report.alreadyApplied + report.skippedDirty.length + report.planned.length =
          migrations.length) := by
  intro dry live
  obtain ⟨es, ends, quiet⟩ :=
    Runner.dry_run_ends (r := r) (o := { o with dryRun := true }) rfl calm
  rw [Runner.prospect_dryRun] at ends
  have told : dry.1 = _ := congrArg Prod.fst ends
  have foretold := Runner.prepare_foretold (r := r) { o with dryRun := false } makeable calm
  rw [Runner.prospect_dryRun] at foretold
  refine ⟨⟨es, congrArg Prod.snd ends, quiet⟩, ?_⟩
  cases foreseen : r.prospect o w.database with
  | error e =>
      rw [foreseen] at told foretold
      have fails : live.1 = .error e := by
        obtain ⟨w', prepares⟩ : ∃ w', w.run (r.prepare { o with dryRun := false }) = (.error e, w') :=
          ⟨_, Prod.ext foretold rfl⟩
        unfold live
        rw [Runner.run_eq rfl, World.run_bind_error prepares]
      rw [told]
      refine ⟨fun e' same => ?_, fun report succeeds => ?_⟩
      · rw [fails]
        exact congrArg Except.error (Except.error.inj same)
      · cases succeeds
  | ok prepared =>
      obtain ⟨migrations, records⟩ := prepared
      rw [foreseen] at told foretold
      rw [told]
      refine ⟨fun e fails => ?_, fun report same => ?_⟩
      · cases fails
      obtain rfl : Runner.forecast { o with dryRun := true } (migrations, records) = report :=
        Except.ok.inj same
      refine ⟨rfl, ?_, fun all => ?_⟩
      · obtain ⟨prepared, result, new, n, fs, constrained, w', runs, course, -⟩ :=
          run_undisturbed rfl alone calm foretold
        -- The selection goes by the rows, and the forecast by the records.
        have selected : r.selection { o with dryRun := false }
            (w.database.trackingRows r.tracker.table) =
            o.target.select (pendingOf records migrations) := by
          rw [prepared.recorded.pendingOf_eq, Runner.selection_eq prepared.listed]
        rw [selected] at course
        have result_eq : live.1 = result := congrArg Prod.fst runs
        rw [result_eq]
        generalize executionsIn fs = exs at course
        cases course with
        | whole => exact .inl rfl
        | halted before m after e parts =>
            refine .inr ⟨idsOf before, m.id, idsOf after, _, ?_, rfl⟩
            simp only [Runner.forecast, parts, idsOf, List.map_append, List.map_cons]
      · obtain ⟨listed, -, -⟩ := Runner.prospect_eq_ok.mp foreseen
        exact ⟨migrations, listed, Runner.forecast_counts { o with dryRun := true } all _ _⟩

open Sample

/-- Where there is no table, two migrations are planned, and the action of the second one fails. -/
theorem dry_run_predicts_absent :
    let second : Migration :=
      ⟨⟨"002", by decide⟩, none, .procedure "b" [.failed (.execution "no space")], none⟩
    let r : Runner := ⟨.registry [first, second], ⟨.standard⟩⟩
    let o : RunOptions := {}
    let w := World.ticking .empty
    let dry := w.run (r.run { o with dryRun := true })
    let live := w.run (r.run { o with dryRun := false })
    (w.database.CanMake r.tracker.table ∧ r.source.LeavesAlone r.tracker.table ∧ w.faults = []) ∧
    dry.1 = .ok ⟨[], [first.id, second.id], [], [], 0, true⟩ ∧
    (live.1 = .ok ⟨[first.id, second.id], [], [], [], 0, false⟩ ∨
      ∃ completed id others reason, [first.id, second.id] = completed ++ id :: others ∧
        live.1 = .error (.execution ⟨id, .up, .failed, reason, completed⟩)) := by
  intro second r o w dry live
  have listed : r.source.list = .ok [first, second] := inOrder_of_ascending (by decide)
  have alone : r.source.LeavesAlone r.tracker.table :=
    Source.leavesAlone_silent listed (by decide) r.tracker.table
  have makeable : w.database.CanMake r.tracker.table := .inr (.inr rfl)
  have foreseen : r.prospect { o with dryRun := true } w.database = .ok ([first, second], []) :=
    Runner.prospect_eq_ok.mpr ⟨listed, Tracker.knownIn_absent rfl, rfl⟩
  obtain ⟨es, ends, -⟩ := Runner.dry_run_ends (r := r) (o := { o with dryRun := true }) rfl
    (show w.faults = [] from rfl)
  rw [foreseen] at ends
  have told : dry.1 = .ok ⟨[], [first.id, second.id], [], [], 0, true⟩ := congrArg Prod.fst ends
  obtain ⟨-, -, predicts⟩ := dry_run_predicts r o w makeable alone rfl
  exact ⟨⟨makeable, alone, rfl⟩, told, (predicts _ told).2.1⟩

end SchemaMigration
