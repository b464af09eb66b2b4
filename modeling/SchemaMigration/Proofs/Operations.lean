import SchemaMigration.Proofs.Forward
import SchemaMigration.Proofs.Order
import SchemaMigration.Proofs.Preparation

/-! # Operations of the engine

An operation is made of a few parts: of requests that change no row, of steps of a run or a rollback, of
a second try, of recording migrations as completed, and of dropping the table. What all the parts keep
(`PartsKeep`), every operation keeps, and so does every history of operations on one tracking table, each
with a source of its own.
-/

namespace SchemaMigration

open World

variable {I : World → Prop} {w w' : World} {t : Tracker} {id : MigrationId} {m : Migration}
variable {migrations : List Migration}

theorem World.after_bind {α β : Type} {x : Engine α} {f : α → Engine β} (first : I (w.run x).2)
    (rest : ∀ a w', w.run x = (.ok a, w') → I w' → I (w'.run (f a)).2) :
    I (w.run (x >>= f)).2 := by
  rw [run_bind]
  rcases ends : w.run x with ⟨e | a, w'⟩
  · rwa [ends] at first
  · rw [ends] at first
    exact rest a w' ends first

/-- What holds before a script is carried out holds after it, however it ends. -/
def Keeps (I : World → Prop) {α : Type} (x : Engine α) : Prop :=
  ∀ w, I w → I (w.run x).2

namespace Keeps

variable {α β : Type}

theorem bind {x : Engine α} {f : α → Engine β} (first : Keeps I x)
    (rest : ∀ (w w' : World) a, w.run x = (.ok a, w') → Keeps I (f a)) : Keeps I (x >>= f) :=
  fun w before => after_bind (first w before) fun a w' ends => rest w w' a ends w'

theorem map {x : Engine α} (h : Keeps I x) (f : α → β) : Keeps I (f <$> x) := by
  intro w before
  rw [run_map]
  exact h w before

theorem of_asks {P : Request → Prop} (step : ∀ r w, P r → I w → I (respond r w).2) {x : Engine α}
    (asks : Engine.Asks P x) : Keeps I x :=
  fun _ before => Script.Asks.keeps step asks before

theorem forM {as : List α} {f : α → Engine PUnit} (each : ∀ a ∈ as, Keeps I (f a)) :
    Keeps I (as.forM f) := by
  induction as with
  | nil => exact fun _ h => h
  | cons a rest ih =>
      exact (each a List.mem_cons_self).bind fun _ _ _ _ =>
        ih fun b inside => each b (List.mem_cons_of_mem a inside)

end Keeps

namespace Runner

/-- A step of a rollback: executes the reverse action of a migration and deletes its row. -/
def takeBackOne (t : Tracker) (rolledBack : List MigrationId) (m : Migration) :
    Engine Unit := do
  let some action := m.down | throw (.irreversible m.id)
  match ← Engine.perform m.id .down action with
  | .ok () =>
    discard (t.remove m.id)
    Engine.note .info ("Rolled back " ++ m.id.text)
  | .error error =>
    Engine.note .error ("Rollback of " ++ m.id.text ++ " failed: " ++ error.message)
    throw (.execution ⟨m.id, .down, .completed, error.message, rolledBack⟩)

theorem takeBackAll_cons (t : Tracker) (rolledBack : List MigrationId) (m : Migration)
    (rest : List Migration) :
    takeBackAll t rolledBack (m :: rest) = takeBackOne t rolledBack m >>= fun _ =>
      takeBackAll t (rolledBack ++ [m.id]) rest := by
  rw [takeBackAll, takeBackOne]
  cases m.down with
  | none => rfl
  | some action =>
      simp only [bind_assoc]
      congr 1
      funext outcome
      cases outcome with
      | ok => simp only [bind_assoc]
      | error e => simp only [bind_assoc]

/-- The second try of a migration that failed. -/
def tryAgain (t : Tracker) (m : Migration) (id : String) : Engine Unit := do
  t.retry m.id
  Engine.note .info ("Retrying " ++ id)
  applyForward t m

end Runner

/-- All parts of operations keep something, as long as the actions that they execute leave the table
    alone. -/
structure PartsKeep (I : World → Prop) (t : Tracker) : Prop where
  idle : ∀ r w, Request.IsIdle r → I w → I (respond r w).2
  applyOne : ∀ applied m, m.up.LeavesAlone t.table → Keeps I (Runner.applyOne t applied m)
  tryAgain : ∀ m id, m.up.LeavesAlone t.table → Keeps I (Runner.tryAgain t m id)
  takeBackOne : ∀ rolledBack m, m.LeavesAlone t.table →
    Keeps I (Runner.takeBackOne t rolledBack m)
  settle : ∀ id checksum, Keeps I (t.forceComplete id checksum)
  drop : Keeps I (Engine.call (.dropTable t.table))

theorem listed_of_discover {s : Source}
    (ends : w.run (Runner.discover ⟨s, t⟩) = (.ok migrations, w')) : s.list = .ok migrations := by
  unfold Runner.discover at ends
  rw [run_ofExcept] at ends
  cases listed : s.list with
  | error e =>
      rw [listed] at ends
      cases ends
  | ok ms =>
      rw [listed] at ends
      cases ends
      rfl

theorem mem_of_findMigration {id : String}
    (found : findMigration id migrations = .ok m) : m ∈ migrations := by
  unfold findMigration at found
  split at found
  · rename_i known
    cases found
    exact List.mem_of_find?_eq_some known
  · cases found

theorem findReversible_cases (migrations : List Migration) (id : MigrationId) :
    (Runner.findReversible migrations id = .error (.notFound id.text) ∧
      ∀ m ∈ migrations, m.id ≠ id) ∨
    ∃ m ∈ migrations, m.id = id ∧
      (Runner.findReversible migrations id = .error (.irreversible id) ∧ m.isReversible = false ∨
        Runner.findReversible migrations id = .ok m ∧ m.isReversible = true) := by
  unfold Runner.findReversible findMigration
  cases found : migrations.find? fun m => m.id.text == id.text with
  | none =>
      refine .inl ⟨rfl, fun m inside same => ?_⟩
      exact List.find?_eq_none.mp found m inside (beq_iff_eq.mpr (congrArg MigrationId.text same))
  | some m =>
      have same := List.find?_some found
      have own : m.id = id := MigrationId.ext_text (eq_of_beq same)
      refine .inr ⟨m, List.mem_of_find?_eq_some found, own, ?_⟩
      cases reversible : m.isReversible <;> simp [bind, Except.bind, reversible]

theorem findReversible_ok (found : Runner.findReversible migrations id = .ok m) :
    m ∈ migrations ∧ m.id = id ∧ m.isReversible = true := by
  obtain ⟨fails, -⟩ | ⟨m', inside, own, ⟨fails, -⟩ | ⟨finds, reversible⟩⟩ :=
    findReversible_cases migrations id
  · cases found.symm.trans fails
  · cases found.symm.trans fails
  · cases found.symm.trans finds
    exact ⟨inside, own, reversible⟩

theorem ids_of_planned {ids : List MigrationId} {plan : List Migration}
    (planned : ids.mapM (Runner.findReversible migrations) = .ok plan) :
    idsOf plan = ids ∧ ∀ m ∈ plan, m ∈ migrations ∧ m.isReversible = true := by
  have pairs := forall₂_of_mapM_ok planned
  clear planned
  induction pairs with
  | nil => simp [idsOf]
  | cons found _ ih =>
      obtain ⟨inside, own, reversible⟩ := findReversible_ok found
      refine ⟨congr (congrArg _ own) ih.1, fun m among => ?_⟩
      rcases List.mem_cons.mp among with rfl | among
      · exact ⟨inside, reversible⟩
      · exact ih.2 m among

/-- A plan is made of the source and of the completed records of the table, where there is one. -/
theorem planRollback_ok {s : Source} {strategy : RollbackStrategy} {plan : List Migration}
    (ends : w.run (Runner.planRollback ⟨s, t⟩ strategy) = (.ok plan, w')) :
    ∃ migrations records, s.list = .ok migrations ∧
      (strategy.select (records.map MigrationRecord.id)).mapM (Runner.findReversible migrations) =
        .ok plan ∧
      (records = [] ∨ ∃ table, w'.database.Stores t.table table ∧
        (Query.completedByRecency.run table).mapM Tracker.decodeRow = .ok records) := by
  unfold Runner.planRollback at ends
  obtain ⟨migrations, w₁, discovered, ends⟩ := bind_ok_inv ends
  obtain ⟨created, w₂, -, ends⟩ := bind_ok_inv ends
  obtain ⟨_, w₃, -, ends⟩ := bind_ok_inv ends
  have listed := listed_of_discover discovered
  cases created with
  | false =>
      obtain ⟨completed, w₄, read, ends⟩ := bind_ok_inv ends
      cases read
      rw [run_ofExcept] at ends
      exact ⟨migrations, [], listed, congrArg Prod.fst ends, .inl rfl⟩
  | true =>
      obtain ⟨completed, w₄, read, ends⟩ := bind_ok_inv ends
      obtain ⟨table, stored, decoded⟩ := Runner.records_stored read
      rw [run_ofExcept] at ends
      obtain ⟨planned, rfl⟩ := Prod.mk.inj ends
      exact ⟨migrations, completed, listed, planned, .inr ⟨table, stored, decoded⟩⟩

theorem plan_from_source {s : Source} {strategy : RollbackStrategy} {plan : List Migration}
    (ends : w.run (Runner.planRollback ⟨s, t⟩ strategy) = (.ok plan, w')) :
    ∃ migrations, s.list = .ok migrations ∧ ∀ m ∈ plan, m ∈ migrations := by
  obtain ⟨migrations, records, listed, planned, -⟩ := planRollback_ok ends
  exact ⟨migrations, listed, fun m inside => ((ids_of_planned planned).2 m inside).1⟩

namespace PartsKeep

variable (h : PartsKeep I t)
include h

theorem of_idle {α : Type} {x : Engine α} (asks : Engine.Asks Request.IsIdle x) : Keeps I x :=
  .of_asks h.idle asks

theorem applyAll (todo : List Migration) (alone : ∀ m ∈ todo, m.up.LeavesAlone t.table)
    (applied : List MigrationId) : Keeps I (Runner.applyAll t applied todo) := by
  induction todo generalizing applied with
  | nil => exact fun _ before => before
  | cons m rest ih =>
      rw [Runner.applyAll_cons]
      exact (h.applyOne applied m (alone m List.mem_cons_self)).bind fun _ _ _ _ =>
        ih (fun other inside => alone other (List.mem_cons_of_mem m inside)) _

theorem run (s : Source) (alone : s.LeavesAlone t.table) (o : RunOptions) :
    Keeps I (Runner.run ⟨s, t⟩ o) := by
  have idle := admitsMaking_idle t
  have checks := Runner.check_asks idle.note o
  have discovers : Engine.Asks Request.IsIdle (Runner.discover ⟨s, t⟩) := Engine.asks_ofExcept _
  cases dry : o.dryRun with
  | true => exact h.of_idle (Runner.asks_dryRun idle.toAdmitsLooking dry)
  | false =>
      have prepares : Engine.Asks Request.IsIdle (Runner.prepare ⟨s, t⟩ o) :=
        discovers.bind fun _ => idle.ensure.bind fun _ => (idle.records .all).bind fun _ =>
          (checks _ _).bind fun _ => Engine.asks_pure _
      rw [Runner.run_eq dry]
      apply (h.of_idle prepares).bind
      rintro w w' ⟨migrations, records⟩ prepared
      obtain ⟨result, w'', ends, -, given⟩ := Runner.prepare_ends ⟨s, t⟩ o w
      rw [prepared] at ends
      cases ends
      have listed := (given migrations records rfl).1.listed
      refine (h.applyAll _ (fun m inside => ?_) []).bind fun _ _ applied _ => h.of_idle ?_
      · exact alone migrations listed m
          (List.mem_filter.mp (RunTarget.mem_of_select inside)).1 .up m.up rfl
      · unfold Runner.conclude
        split
        · exact (Engine.asks_note trivial).bind fun _ => Engine.asks_pure _
        · exact Engine.asks_pure _

theorem retry (s : Source) (alone : s.LeavesAlone t.table) (id : String) :
    Keeps I (Runner.retry ⟨s, t⟩ id) := by
  have idle := admitsMaking_idle t
  unfold Runner.retry
  apply (h.of_idle (Engine.asks_ofExcept _)).bind
  intro w w' migrations discovered
  apply (h.of_idle (Engine.asks_ofExcept _)).bind
  intro w₁ w₁' m found
  have alone' : m.up.LeavesAlone t.table := by
    rw [run_ofExcept] at found
    have inside := mem_of_findMigration (congrArg Prod.fst found)
    exact alone migrations (listed_of_discover discovered) m inside .up m.up rfl
  refine (h.of_idle idle.ensure).bind fun _ _ _ _ => ?_
  refine (h.of_idle (idle.state id)).bind fun _ _ state _ => ?_
  split
  · exact h.of_idle (Engine.asks_throw _)
  · exact h.tryAgain m id alone'

theorem takeBackAll (plan : List Migration) (alone : ∀ m ∈ plan, m.LeavesAlone t.table)
    (rolledBack : List MigrationId) : Keeps I (Runner.takeBackAll t rolledBack plan) := by
  induction plan generalizing rolledBack with
  | nil => exact fun _ before => before
  | cons m rest ih =>
      rw [Runner.takeBackAll_cons]
      exact (h.takeBackOne rolledBack m (alone m List.mem_cons_self)).bind fun _ _ _ _ =>
        ih (fun other inside => alone other (List.mem_cons_of_mem m inside)) _

theorem rollback (s : Source) (alone : s.LeavesAlone t.table) (strategy : RollbackStrategy)
    (dryRun : Bool) : Keeps I (Runner.rollback ⟨s, t⟩ strategy dryRun) := by
  have idle := admitsMaking_idle t
  unfold Runner.rollback
  refine (h.of_idle (idle.planRollback s strategy)).bind fun w w' plan planned => ?_
  obtain ⟨migrations, listed, known⟩ := plan_from_source planned
  split
  · exact h.of_idle ((Engine.asks_note trivial).bind fun _ => Engine.asks_pure _)
  · split
    · refine h.of_idle ((Engine.asks_forM fun _ _ => ?_).bind fun _ => Engine.asks_pure _)
      exact Engine.asks_note trivial
    · have alone' (m : Migration) (inside : m ∈ plan) : m.LeavesAlone t.table :=
        alone migrations listed m (known m inside)
      exact (h.takeBackAll plan alone' []).bind fun _ _ _ _ => h.of_idle (Engine.asks_pure _)

theorem markCompleted (s : Source) (id : String) (consent : Consent) :
    Keeps I (Runner.markCompleted ⟨s, t⟩ id consent) := by
  have idle := admitsMaking_idle t
  unfold Runner.markCompleted
  cases consent.isGiven
  · exact h.of_idle (Engine.asks_throw _)
  · refine (h.of_idle (Engine.asks_ofExcept _)).bind fun _ _ migrations _ =>
      (h.of_idle idle.ensure).bind fun _ _ _ _ =>
        (h.of_idle (idle.markTarget migrations id)).bind fun _ _ target _ =>
          (h.of_idle (idle.state _)).bind fun _ _ state _ => ?_
    split
    · exact h.of_idle ((Engine.asks_note trivial).bind fun _ => Engine.asks_pure _)
    · exact (h.settle _ _).bind fun _ _ _ _ =>
        h.of_idle ((Engine.asks_note trivial).bind fun _ => Engine.asks_pure _)

theorem markAllCompleted (s : Source) (scope : MarkScope) (consent : Consent) :
    Keeps I (Runner.markAllCompleted ⟨s, t⟩ scope consent) := by
  have idle := admitsMaking_idle t
  unfold Runner.markAllCompleted
  cases consent.isGiven
  · exact h.of_idle (Engine.asks_throw _)
  · refine (h.of_idle (Engine.asks_ofExcept _)).bind fun _ _ migrations _ =>
      (h.of_idle idle.ensure).bind fun _ _ _ _ =>
        (h.of_idle (idle.records .all)).bind fun _ _ records _ => ?_
    exact (Keeps.forM fun c _ => (h.settle c.id c.checksum).map _).bind fun _ _ _ _ =>
      h.of_idle ((Engine.asks_note trivial).bind fun _ => Engine.asks_pure _)

theorem reset : Keeps I t.reset :=
  h.drop.bind fun _ _ _ _ => h.of_idle ((admitsMaking_idle t).ensure.bind fun _ =>
    Engine.asks_note trivial)

theorem dropAndRecreate (s : Source) (consent : DropConsent) :
    Keeps I (Runner.dropAndRecreate ⟨s, t⟩ consent) := by
  unfold Runner.dropAndRecreate
  split
  · exact h.of_idle (Engine.asks_throw _)
  · exact h.reset

end PartsKeep

/-- An operation of the engine with what it is asked for. -/
inductive Operation where
  | run (o : RunOptions)
  | rollback (strategy : RollbackStrategy) (dryRun : Bool)
  | retry (id : String)
  | markCompleted (id : String) (consent : Consent)
  | markAllCompleted (scope : MarkScope) (consent : Consent)
  | dropAndRecreate (consent : DropConsent)
  | status
  | validate

/-- What an operation does, apart from what it answers. -/
def Operation.script (r : Runner) : Operation → Engine Unit
  | run o => discard (r.run o)
  | rollback strategy dryRun => discard (r.rollback strategy dryRun)
  | retry id => r.retry id
  | markCompleted id consent => discard (r.markCompleted id consent)
  | markAllCompleted scope consent => discard (r.markAllCompleted scope consent)
  | dropAndRecreate consent => r.dropAndRecreate consent
  | status => discard r.status
  | validate => discard r.validate

/-- The world after operations, each with the source as it is by then. -/
def World.after (t : Tracker) : List (Source × Operation) → World → World
  | [], w => w
  | (s, operation) :: rest, w => World.after t rest (w.run (operation.script ⟨s, t⟩)).2

theorem PartsKeep.operation (h : PartsKeep I t) (s : Source) (alone : s.LeavesAlone t.table)
    (operation : Operation) : Keeps I (operation.script ⟨s, t⟩) := by
  have idle := admitsMaking_idle t
  cases operation with
  | run o => exact (h.run s alone o).map _
  | rollback strategy dryRun => exact (h.rollback s alone strategy dryRun).map _
  | retry id => exact h.retry s alone id
  | markCompleted id consent => exact (h.markCompleted s id consent).map _
  | markAllCompleted scope consent => exact (h.markAllCompleted s scope consent).map _
  | dropAndRecreate consent => exact h.dropAndRecreate s consent
  | status => exact (h.of_idle (idle.status s)).map _
  | validate => exact (h.of_idle (idle.validate s)).map _

/-- What the parts of operations keep (`PartsKeep`), histories of operations keep. -/
theorem PartsKeep.history (h : PartsKeep I t) (history : List (Source × Operation))
    (alone : ∀ step ∈ history, step.1.LeavesAlone t.table) (before : I w) :
    I (w.after t history) := by
  induction history generalizing w with
  | nil => exact before
  | cons step rest ih =>
      obtain ⟨s, operation⟩ := step
      apply ih fun other inside => alone other (List.mem_cons_of_mem _ inside)
      exact h.operation s (alone _ List.mem_cons_self) operation w before

end SchemaMigration
