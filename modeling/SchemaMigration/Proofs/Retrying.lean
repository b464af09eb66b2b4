import SchemaMigration.Proofs.Creation
import SchemaMigration.Proofs.Forward
import SchemaMigration.Proofs.Stages

/-! # Retrying without failures

A run that stops at a migration leaves its row at the end of the table, failed. A retry leads that row
back to where the run had it before the action, so that the outcome is recorded in the same way as in
the run, with the definition there is by now.
-/

namespace SchemaMigration

open World

theorem findMigration_ok {id : MigrationId} {migrations : List Migration}
    (known : id ∈ idsOf migrations) :
    ∃ m ∈ migrations, m.id = id ∧ findMigration id.text migrations = .ok m := by
  obtain ⟨own, inside, rfl⟩ := List.mem_map.mp known
  unfold findMigration
  cases found : migrations.find? fun m => m.id.text == own.id.text with
  | none =>
      have other := List.find?_eq_none.mp found own inside
      simp at other
  | some m =>
      have same := List.find?_some found
      exact ⟨m, List.mem_of_find?_eq_some found, MigrationId.ext_text (eq_of_beq same), rfl⟩

section
variable {before : List TrackingRow} {id : MigrationId} {start finish : Time.Reading}
variable {reason : String}

theorem failedRow_eq_stage (id : MigrationId) (start finish : Time.Reading) (reason : String) :
    failedRow id start finish reason = (Stage.failed start finish reason).row id :=
  rfl

theorem lookUp_failed (absent : before.find? (·.hasId id.text) = none) :
    Tracker.lookUp (before ++ [failedRow id start finish reason]) id.text =
      .ok (some ((Stage.failed start finish reason).record id)) := by
  have own : (failedRow id start finish reason).hasId id.text = true :=
    TrackingRow.hasId_iff.mpr rfl
  have decodes := (Stage.failed start finish reason).decode_row id
  rw [Tracker.lookUp, List.find?_append, absent, Option.none_or, List.find?_singleton, own, if_pos rfl,
    failedRow_eq_stage]
  simp only [Option.mapM_some, Tracker.decodeRow, decodes]
  rfl

/-- A retry of the migration in the last row, with no failing call. -/
theorem retry_ends {s : Source} {t : Tracker} {w : World} {constrained : Bool}
    {migrations : List Migration} (calm : w.faults = []) (alone : s.LeavesAlone t.table)
    (listed : s.list = .ok migrations) (known : id ∈ idsOf migrations)
    (absent : before.find? (·.hasId id.text) = none)
    (stored : w.database.Stores t.table
      ⟨constrained, before ++ [failedRow id start finish reason]⟩) :
    ∃ m ∈ migrations, m.id = id ∧ ∃ result row outcome now now' n es w',
      w.run (Runner.retry ⟨s, t⟩ id.text) = (result, w') ∧
      ForwardEnd now' False m (startedRow m.id now) result row outcome ∧
      w'.database.Stores t.table ⟨constrained, before ++ [row]⟩ ∧ w.LeadsTo n es w' ∧
      executionsIn es = [m.forward outcome] := by
  obtain ⟨m, inside, rfl, found⟩ := findMigration_ok known
  have others : ∀ row ∈ before ++ [], row.hasId m.id.text = false := by
    simpa only [List.append_nil, Bool.not_eq_true] using List.find?_eq_none.mp absent
  have discovers : w.run (Runner.discover ⟨s, t⟩) = (.ok migrations, w) := by
    rw [Runner.discover, listed]
    rfl
  have finds : w.run (Engine.ofExcept (findMigration m.id.text migrations)) = (.ok m, w) := by
    rw [found]
    rfl
  obtain ⟨es₁, w₁, makes, kept, leads₁, quiet₁⟩ := Tracker.ensure_makes stored.canMake calm
  have stored₁ : w₁.database.Stores t.table
      ⟨constrained, before ++ [failedRow m.id start finish reason]⟩ := by
    rw [Database.Stores, kept, show w.database.find? t.table.relation = _ from stored, Option.some_or]
  have looks := Tracker.state_attempts stored₁ m.id.text
  rw [lookUp_failed absent] at looks
  obtain ⟨w₂, reads, stored₂, leads₂⟩ := looks.calm (leads₁.faults calm)
  have failed : (failedRow m.id start finish reason).isAt m.id.text failedStatus = true :=
    TrackingRow.isAt_iff.mpr ⟨rfl, rfl⟩
  have restarts := moves_on .retry (.restart m.id.text ·) stored₂ others failed fun _ _ => rfl
  obtain ⟨w₃, begins, stored₃, leads₃⟩ := restarts.calm (leads₂.faults (leads₁.faults calm))
  let w₄ := w₃.record (.noted .info ("Retrying " ++ m.id.text))
  have leads₄ := (leads₁.trans leads₂).trans (leads₃.trans (w₃.leadsTo_record
    (.noted .info ("Retrying " ++ m.id.text))))
  have stored₄ : w₄.database.Stores t.table
      ⟨constrained, before ++ startedRow m.id (w₂.clock w₂.readings) :: []⟩ := stored₃
  obtain ⟨result, row, outcome, n, es₅, w₅, applies, ends, stored₅, leads₅, -, executed⟩ :=
    applyForward_ends stored₄ others (TrackingRow.isAt_iff.mpr ⟨rfl, rfl⟩)
      (alone migrations listed m inside .up m.up rfl)
  refine ⟨m, inside, rfl, result, row, outcome, w₂.clock w₂.readings, w₄.clock w₄.readings, _, _, w₅,
    ?_, ?_, stored₅, leads₄.trans leads₅, ?_⟩
  · have begins : w₂.run (t.retry m.id) = (.ok (), w₃) := begins
    have again : w₂.run (t.retry m.id >>= fun _ =>
        Engine.note .info ("Retrying " ++ m.id.text) >>= fun _ => Runner.applyForward t m) =
        (result, w₅) := by
      rw [run_bind_ok begins, run_bind_ok (w₃.run_note .info _), applies]
    unfold Runner.retry
    rw [run_bind_ok discovers, run_bind_ok finds, run_bind_ok makes, run_bind_ok reads]
    exact again
  · cases ends with
    | applied => exact .applied
    | failed e fails => exact .failed e fails
    | unrecorded outcome e struck =>
        exact (struck (leads₃.faults (leads₂.faults (leads₁.faults calm)))).elim
  · rw [executionsIn_append, executed, executionsIn_append, executionsIn_append, quiet₁]
    rfl

end

end SchemaMigration
