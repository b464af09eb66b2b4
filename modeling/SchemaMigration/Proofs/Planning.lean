import SchemaMigration.Proofs.Chronicle
import SchemaMigration.Proofs.Reading
import SchemaMigration.Proofs.Recency

/-! # Plans of rollbacks

A plan goes by the rows of completed migrations in the order of their completion. What a strategy
selects from them is planned as a whole or refused as a whole, before anything is executed.
-/

namespace SchemaMigration

open World

/-- Whether there is anything against a strategy: a lower end must be known to the source or to the
    table. -/
def RollbackStrategy.check (migrations : List Migration) (rows : List TrackingRow) :
    RollbackStrategy → Except EngineError Unit
  | downTo id =>
    if migrations.any (·.id = id) || rows.any (·.hasId id.text) then .ok ()
    else .error (.notFound id.text)
  | last | steps _ | all => .ok ()

/-- The plan for a strategy, given the ids of completed migrations with the latest first. -/
def RollbackStrategy.plan (migrations : List Migration) (rows : List TrackingRow)
    (completed : List MigrationId) (strategy : RollbackStrategy) :
    Except EngineError (List Migration) := do
  strategy.check migrations rows
  (strategy.select completed).mapM (Runner.findReversible migrations)

section
variable {migrations : List Migration} {ids : List MigrationId}

theorem planned_iff (distinct : (migrations.map Migration.id).Nodup) :
    (∃ plan, ids.mapM (Runner.findReversible migrations) = .ok plan) ↔
      ∀ id ∈ ids, ∃ m ∈ migrations, m.id = id ∧ m.isReversible = true := by
  constructor
  · rintro ⟨plan, planned⟩ id inside
    obtain ⟨m, -, found⟩ := (mem_of_mapM_ok planned).2 id inside
    exact ⟨m, findReversible_ok found⟩
  · intro available
    apply exists_mapM_ok
    intro id inside
    obtain ⟨m, known, own, reversible⟩ := available id inside
    obtain ⟨-, missing⟩ | ⟨m', known', own', ⟨-, irreversible⟩ | ⟨finds, -⟩⟩ :=
      findReversible_cases migrations id
    · exact (missing m known own).elim
    · have same : m = m' := List.inj_on_of_nodup_map distinct known known' (own.trans own'.symm)
      rw [same, irreversible] at reversible
      cases reversible
    · exact ⟨m', finds⟩

theorem refused_of_planned {e : EngineError}
    (refused : ids.mapM (Runner.findReversible migrations) = .error e) :
    ∃ id ∈ ids, (e = .notFound id.text ∧ ∀ m ∈ migrations, m.id ≠ id) ∨
      e = .irreversible id ∧ ∃ m ∈ migrations, m.id = id ∧ m.isReversible = false := by
  obtain ⟨id, inside, fails⟩ := exists_of_mapM_error refused
  refine ⟨id, inside, ?_⟩
  obtain ⟨missing, none_has⟩ | ⟨m, known, own, ⟨irreversible, no_down⟩ | ⟨finds, -⟩⟩ :=
    findReversible_cases migrations id
  · exact .inl ⟨Except.error.inj (fails.symm.trans missing), none_has⟩
  · exact .inr ⟨Except.error.inj (fails.symm.trans irreversible), m, known, own, no_down⟩
  · cases fails.symm.trans finds

end

section
variable {w : World} {t : Tracker}

theorem Tracker.isSome_lookUp {rows : List TrackingRow} {id : String}
    (decodes : ∀ row ∈ rows, ∃ r, row.decode = .ok r) :
    (lookUp rows id).map Option.isSome = .ok (rows.any (·.hasId id)) := by
  unfold lookUp
  cases found : rows.find? (·.hasId id) with
  | none =>
      rw [List.any_eq_false.mpr (List.find?_eq_none.mp found)]
      rfl
  | some row =>
      have inside := List.mem_of_find?_eq_some found
      obtain ⟨r, decoded⟩ := decodes row inside
      rw [List.any_eq_true.mpr ⟨row, inside, List.find?_some found⟩]
      simp [decodeRow, decoded, Except.mapError, Functor.map, Except.map]

theorem Database.Reserved.has_iff {db : Database} {name : TableName} (h : db.Reserved name) :
    (db.has name.relation = false ∧ db.trackingRows name = []) ∨
      ∃ table, db.has name.relation = true ∧ db.Stores name table := by
  rcases h with absent | ⟨table, stored⟩
  · exact .inl ⟨by simp [has, absent], by simp only [trackingRows, absent]⟩
  · exact .inr ⟨table, by simp [has, show db.find? name.relation = _ from stored], stored⟩

variable (calm : w.faults = []) (reserved : w.database.Reserved t.table)
variable (decodes : ∀ row ∈ w.database.trackingRows t.table, ∃ r, row.decode = .ok r)
include calm reserved decodes

theorem tracked_reads (id : MigrationId) :
    w.Reads (if w.database.has t.table.relation then Option.isSome <$> t.get? id.text else pure false)
      (.ok ((w.database.trackingRows t.table).any (·.hasId id.text))) := by
  rcases reserved.has_iff with ⟨missing, rows⟩ | ⟨table, present, stored⟩
  · rw [missing, rows, if_neg Bool.false_ne_true]
    exact w.reads_value (.ok false)
  · have rows := stored.trackingRows_eq
    rw [rows] at decodes
    have read := (Tracker.get?_attempts stored id.text).map Option.isSome
    rw [Tracker.isSome_lookUp decodes] at read
    rw [if_pos present, rows]
    exact read.reads (((admitsLooking_read t).get? id.text).map _) calm

omit decodes in
theorem completed_reads {records : List MigrationRecord}
    (decoded : (completedRows (w.database.trackingRows t.table)).mapM Tracker.decodeRow =
      .ok records) :
    w.Reads (if w.database.has t.table.relation then t.completedByRecency else pure [])
      (.ok records) := by
  rcases reserved.has_iff with ⟨missing, rows⟩ | ⟨table, present, stored⟩
  · obtain rfl : [] = records := by simpa [rows, completedRows, pure, Except.pure] using decoded
    rw [missing, if_neg Bool.false_ne_true]
    exact w.reads_value (.ok [])
  · rw [stored.trackingRows_eq] at decoded
    have read := Tracker.records_attempts stored .completedByRecency
    rw [if_pos present, ← decoded]
    exact read.reads ((admitsLooking_read t).records _) calm

end

theorem checkLowerEnd_reads {w : World} {t : Tracker} {rows : List TrackingRow} (created : Bool)
    (migrations : List Migration) (strategy : RollbackStrategy)
    (tracked : ∀ id : MigrationId, w.Reads
      (if created then Option.isSome <$> t.get? id.text else pure false)
      (.ok (rows.any (·.hasId id.text)))) :
    w.Reads (Runner.checkLowerEnd t created migrations strategy)
      (strategy.check migrations rows) := by
  cases strategy with
  | last | steps | all => exact w.reads_value (.ok ())
  | downTo id =>
      have decides (known : Bool) (w' : World) : w'.Reads
          (if (!(migrations.any (·.id = id)) && !known) = true then
            throw (.notFound id.text) else pure () : Engine Unit)
          (if migrations.any (·.id = id) || known then .ok () else .error (.notFound id.text)) := by
        cases migrations.any (·.id = id) <;> cases known
        · exact w'.reads_value (.error _)
        all_goals exact w'.reads_value (.ok ())
      cases created with
      | false => exact (tracked id).bind fun known _ => decides known _
      | true => exact (tracked id).bind fun known _ => decides known _

/-- Without failures, planning comes to the plan for the completed rows in the order of their
    completion. -/
theorem planRollback_reads {w : World} {t : Tracker} {s : Source} {migrations : List Migration}
    {records : List MigrationRecord} (calm : w.faults = []) (listed : s.list = .ok migrations)
    (reserved : w.database.Reserved t.table)
    (decodes : ∀ row ∈ w.database.trackingRows t.table, ∃ r, row.decode = .ok r)
    (decoded : (completedRows (w.database.trackingRows t.table)).mapM Tracker.decodeRow =
      .ok records) (strategy : RollbackStrategy) :
    w.Reads (Runner.planRollback ⟨s, t⟩ strategy)
      (strategy.plan migrations (w.database.trackingRows t.table)
        (records.map MigrationRecord.id)) := by
  have discovers : w.Reads (Runner.discover ⟨s, t⟩) (.ok migrations) := by
    rw [Runner.discover, listed]
    exact w.reads_value (.ok migrations)
  refine discovers.bind_ok fun es => ?_
  have created : World.Reads { w with events := es } t.isCreated
      (.ok (w.database.has t.table.relation)) :=
    World.reads_call (w := { w with events := es }) (c := .relationExists t.table) calm trivial
  refine created.bind_ok fun es => ?_
  have tracked := tracked_reads (w := { w with events := es }) calm reserved decodes
  refine (checkLowerEnd_reads _ migrations strategy tracked).bind fun _ es => ?_
  have found := completed_reads (w := { w with events := es }) calm reserved decoded
  -- What follows the choice to read the table or not stands in both of its branches.
  let rest (completed : List MigrationRecord) : Engine (List Migration) :=
    Engine.ofExcept ((strategy.select (completed.map MigrationRecord.id)).mapM
      (Runner.findReversible migrations))
  change World.Reads _ (if w.database.has t.table.relation then _ else _) _
  generalize w.database.has t.table.relation = created at found ⊢
  cases created with
  | false => exact found.bind_ok (f := rest) fun _ => reads_value _ _
  | true => exact found.bind_ok (f := rest) fun _ => reads_value _ _

end SchemaMigration
