import SchemaMigration.Proofs.Operations
import SchemaMigration.Proofs.Spending

/-! # Histories

Operations follow one another on one tracking table, each with a source of its own, and any of their
calls may fail. Every operation keeps the invariant `Consistent`, so that no history executes a forward
action again after it succeeded, unless its row was deleted in between.
-/

namespace SchemaMigration

open World

variable {w w' : World} {t : Tracker} {id : MigrationId} {m : Migration}

/-- A migration was not shielded and is from now on: it was begun, or is tried again. -/
structure Shields (t : Tracker) (id : MigrationId) (w w' : World) : Prop where
  before : ¬Shielded (w.database.trackingRows t.table) id
  after : Shielded (w'.database.trackingRows t.table) id

theorem Tracker.begin_shields (ends : w.run (t.begin id) = (.ok (), w')) : Shields t id w w' := by
  obtain ⟨table, stored⟩ : ∃ table, w.database.Stores t.table table := by
    rcases looked : w.run (t.get? id.text) with ⟨e | record, w₁⟩
    · unfold Tracker.begin at ends
      rw [run_bind_error looked] at ends
      cases ends
    · exact stored_of_select looked
  cases found : table.rows.find? (·.hasId id.text) with
  | none =>
      cases begin_attempts stored found (Change.insertStarted_absent found _) with
      | struck e w₁ n es ends' =>
          rw [ends'] at ends
          cases ends
      | answered w₁ ends' stores =>
          rw [ends'] at ends
          cases ends
          constructor
          · rw [stored.trackingRows_eq]
            exact Shielded.not_of_absent found
          · rw [stores.trackingRows_eq]
            exact .of_inserted found rfl inProgress_ne_failed
  | some row =>
      cases decoded : decodeRow row with
      | error e =>
          have looks := get?_attempts stored id.text
          rw [lookUp, found, Option.mapM_some, decoded] at looks
          exact (looks.bind_error.not_ok () w' ends).elim
      | ok r =>
          have present : lookUp table.rows id.text = .ok (some r) := by
            rw [lookUp, found, Option.mapM_some, decoded]
            rfl
          exact ((begin_refused stored present).not_ok () w' ends).elim

theorem Tracker.expectTransition_ok {operation : Transition} {affected : Nat}
    (ends : w.run (t.expectTransition id operation affected) = (.ok (), w')) :
    0 < affected ∧ w' = w := by
  cases affected with
  | zero =>
      have runs := w.run_bind (t.state id.text) fun s =>
        (throw (.invalidState id s operation) : Engine Unit)
      change w.run (t.expectTransition id operation 0) = _ at runs
      rw [ends] at runs
      rcases shown : w.run (t.state id.text) with ⟨e | s, w₁⟩ <;> rw [shown] at runs <;> cases runs
  | succ n =>
      cases ends
      exact ⟨Nat.succ_pos n, rfl⟩

theorem Tracker.retry_shields (ends : w.run (t.retry id) = (.ok (), w')) : Shields t id w w' := by
  let w₁ : World := { w with readings := w.readings + 1 }
  let statement := Change.restart id.text (w.clock w.readings)
  have runs := w₁.run_bind (Engine.call (.change t.table statement)) fun affected : Nat =>
    t.expectTransition id .retry affected
  change w.run (t.retry id) = _ at runs
  rw [ends, run_call] at runs
  obtain ⟨e, w₂, called, -⟩ | ⟨w₂, called, same, -⟩ := w₁.call_cases (.change t.table statement)
  · rw [called] at runs
    cases runs
  · rw [called] at runs
    rcases w.database.change_cases t.table statement with
      ⟨e, refused⟩ | ⟨table, changed, affected, stored, applied, answered⟩
    · rw [Database.answer, refused] at runs
      cases runs
    · rw [Database.answer, answered] at runs same
      obtain ⟨some_affected, rfl⟩ := expectTransition_ok runs.symm
      cases applied
      obtain ⟨row, inside, failed⟩ := List.countP_pos_iff.mp some_affected
      constructor
      · rw [stored.trackingRows_eq]
        intro shielded
        obtain ⟨own, status⟩ := TrackingRow.isAt_iff.mp failed
        exact shielded.unfailed row inside (TrackingRow.hasId_iff.mpr own) status
      · rw [same, (stored.replaced _).trackingRows_eq]
        exact .of_restarted inside failed (fun _ => rfl) fun _ => inProgress_ne_failed

/-- A migration may be executed: all is `Consistent`, the migration is not `Spent`, and it is `Shielded`
    already. -/
structure Executable (t : Tracker) (id : MigrationId) (w : World) : Prop extends Consistent t w where
  unspent : ¬Spent t id w.events
  ready : Shielded (w.database.trackingRows t.table) id

theorem Consistent.executable {x : Engine Unit} (h : Consistent t w)
    (asks : Engine.Asks (Request.Spares t fun _ => True) x) (ends : w.run x = (.ok (), w'))
    (shields : Shields t id w w') : Executable t id w' := by
  have spares := Spares.of_asks asks w
  rw [ends] at spares
  refine ⟨h.of_spares spares fun _ _ => trivial, fun spent => ?_, shields.after⟩
  exact shields.before (h.shielded id (spares.spent_before spent))

/-- After an execution, the migration may be `Spent`, but then it is `Shielded` already; and it is not
    when the action has failed. -/
theorem execution_consistent {batches : List Event} {outcome : Except DbError Unit}
    (h : Executable t m.id w)
    (same : w'.database.find? t.table.relation = w.database.find? t.table.relation)
    (events : w'.events = w.events ++ (batches ++ [.performed m.id .up m.up outcome]))
    (sent : ∀ e ∈ batches, e.IsBatch) :
    Consistent t w' ∧ (outcome ≠ .ok () → ¬Spent t m.id w'.events) := by
  have executed := executionsIn_action sent m.id .up m.up outcome
  have succeeds (other : MigrationId) (spent : Spent t other w'.events) :
      Spent t other w.events ∨ other = m.id ∧ outcome = .ok () := by
    rw [events] at spent
    rcases spent.of_append with spent | ⟨a, inside⟩
    · exact .inl spent
    · rw [executed, List.mem_singleton] at inside
      cases inside
      exact .inr ⟨rfl, rfl⟩
  refine ⟨⟨?_, ?_⟩, ?_⟩
  · rw [events]
    apply h.once.append
    intro before other a outcome' after parts
    rcases split_append parts with ⟨rest, inside, -⟩ | ⟨rest, rfl, inside⟩
    · have batch := sent _ (inside ▸ List.mem_append_right before List.mem_cons_self)
      exact batch.elim
    · -- The one execution is the last of the events, so that nothing comes before it but batches.
      cases rest with
      | nil =>
          cases inside
          intro spent
          rw [List.append_nil] at spent
          exact h.unspent (spent.of_append_down (down_of_quiet (executionsIn_batches sent)))
      | cons first rest => cases rest <;> cases inside
  · intro other spent
    rw [Database.trackingRows_congr same]
    rcases succeeds other spent with spent | ⟨rfl, -⟩
    · exact h.shielded other spent
    · exact h.ready
  · intro failed spent
    rcases succeeds m.id spent with spent | ⟨-, ok⟩
    · exact h.unspent spent
    · exact failed ok

theorem applyForward_consistent (h : Executable t m.id w) (alone : m.up.LeavesAlone t.table) :
    Consistent t (w.run (Runner.applyForward t m)).2 := by
  unfold Runner.applyForward
  obtain ⟨outcome, batches, w₁, runs, same, leads, sent⟩ := alone.executed w m.id .up _
  obtain ⟨consistent, unspent⟩ := execution_consistent h same leads.events sent
  have settling (S : MigrationId → Prop) := admitsSettling_spares t S
  rw [runs]
  cases outcome with
  | ok =>
      apply consistent.of_asks
      apply Engine.Asks.bind
      · exact (settling _).guarded (settling _).clock m.id .complete fun _ => ⟨rfl, trivial⟩
      · exact fun _ => Engine.asks_note trivial
  | error e =>
      -- Recording the failure takes away the shield of this migration, which is not spent.
      have asks : Engine.Asks (Request.Spares t (· ≠ m.id)) (do
          t.fail m.id e.message
          Engine.note .error ("Migration " ++ m.id.text ++ " failed: " ++ e.message)
          throw (.execution ⟨m.id, .up, .failed, e.message, []⟩) : Engine Unit) := by
        apply Engine.Asks.bind
        · refine (settling _).guarded (settling _).clock m.id .fail fun _ => ⟨rfl, ?_⟩
          exact fun other different same => different (MigrationId.ext_text same)
        · exact fun _ => (Engine.asks_note trivial).bind fun _ => Engine.asks_throw _
      have spares := Spares.of_asks asks w₁
      refine consistent.of_spares spares ?_
      rintro other spent rfl
      exact unspent nofun (spares.spent_before spent)

/-- An operation after which all is `Consistent` if it was before. -/
def Maintains (t : Tracker) {α : Type} (x : Engine α) : Prop :=
  ∀ w, Consistent t w → Consistent t (w.run x).2

theorem Maintains.of_asks {α : Type} {x : Engine α} (asks : Engine.Asks (Request.Spares t fun _ => True) x) :
    Maintains t x :=
  fun _ h => h.of_asks asks

theorem begin_asks (t : Tracker) (id : MigrationId) :
    Engine.Asks (Request.Spares t fun _ => True) (t.begin id) :=
  let settling := admitsSettling_spares t fun _ => True
  settling.begin settling.clock fun _ => ⟨rfl, trivial⟩

theorem retry_asks (t : Tracker) (id : MigrationId) :
    Engine.Asks (Request.Spares t fun _ => True) (t.retry id) :=
  let settling := admitsSettling_spares t fun _ => True
  settling.guarded settling.clock id .retry fun _ => ⟨rfl, trivial⟩

theorem applyOne_maintains (alone : m.up.LeavesAlone t.table) (applied : List MigrationId) :
    Maintains t (Runner.applyOne t applied m) := by
  intro w h
  have asks := begin_asks t m.id
  refine after_bind (h.of_asks asks) fun _ w₁ begins _ => ?_
  have executable := h.executable asks begins (Tracker.begin_shields begins)
  have executed := applyForward_consistent executable alone
  rw [run_tryCatch]
  rcases ends : w₁.run (Runner.applyForward t m) with ⟨e | _, w₂⟩ <;> rwa [ends] at executed

theorem tryAgain_maintains (alone : m.up.LeavesAlone t.table) (id : String) :
    Maintains t (Runner.tryAgain t m id) := by
  intro w h
  have asks := retry_asks t m.id
  refine after_bind (h.of_asks asks) fun _ w₁ restarts _ => ?_
  have noted : w.run (t.retry m.id >>= fun _ => Engine.note .info ("Retrying " ++ id)) =
      (.ok (), w₁.record (.noted .info ("Retrying " ++ id))) := by
    rw [run_bind_ok restarts, run_note]
  have shields := Tracker.retry_shields restarts
  have executable := h.executable (asks.bind fun _ => Engine.asks_note trivial) noted
    ⟨shields.before, shields.after⟩
  rw [run_bind_ok (w₁.run_note .info _)]
  exact applyForward_consistent executable alone

/-- Deleting a row right after the reverse action has succeeded. Where a row is deleted, its migration
    is released; otherwise the rows are as they were. -/
theorem remove_consistent {es : List Event} {a : Action} (h : Consistent t w)
    (events : w.events = es ++ [.performed id .down a (.ok ())]) :
    Consistent t (w.run (discard (t.remove id))).2 := by
  let deletion : Call := .change t.table (.delete id.text)
  rw [t.run_remove]
  have spares : w.Spares t (· ≠ id) (w.call deletion).2 :=
    Spares.of_request (r := .call deletion)
      ⟨rfl, fun other different same => different (MigrationId.ext_text same)⟩ w
  have unless_deleted (same : (w.call deletion).2.database.trackingRows t.table =
      w.database.trackingRows t.table) : Consistent t (w.call deletion).2 :=
    h.of_spares (S := fun _ => True) ⟨spares.events, fun _ _ shielded => same ▸ shielded⟩
      fun _ _ => trivial
  obtain ⟨e, w', called, same, -⟩ | ⟨w', called, same, leads⟩ := w.call_cases deletion
  · exact unless_deleted (by rw [called, same])
  rcases w.database.change_cases t.table (.delete id.text) with
    ⟨e, refused⟩ | ⟨table, changed, affected, stored, applied, answered⟩
  · apply unless_deleted
    rw [called, same, Database.answer, refused]
  rw [Database.answer, answered] at same leads
  cases affected with
  | zero =>
      apply unless_deleted
      rw [called, same, (stored.replaced _).trackingRows_eq, stored.trackingRows_eq,
        Change.eq_of_unaffected applied]
  | succ n =>
      refine h.of_spares spares ?_
      rintro other spent rfl
      rw [called, leads.events, events, List.append_assoc] at spent
      exact not_spent_of_rollback a n spent

theorem takeBackOne_maintains (alone : m.LeavesAlone t.table) (rolledBack : List MigrationId) :
    Maintains t (Runner.takeBackOne t rolledBack m) := by
  intro w h
  unfold Runner.takeBackOne
  cases down : m.down with
  | none => exact h
  | some action =>
      have alone' : action.LeavesAlone t.table := alone .down action down
      obtain ⟨outcome, batches, w₁, runs, same, leads, sent⟩ :=
        alone'.executed w m.id .down _
      have spares : w.Spares t (fun _ => True) w₁ := by
        refine .of_rows leads.events (fun x inside => ?_) (Database.trackingRows_congr same)
        rw [executionsIn_action sent, List.mem_singleton] at inside
        rw [inside]
      have consistent := h.of_spares spares fun _ _ => trivial
      dsimp only
      rw [runs]
      cases outcome with
      | ok =>
          have removed : Consistent t (w₁.run (discard (t.remove m.id))).2 :=
            remove_consistent consistent (leads.events.trans (List.append_assoc _ _ _).symm)
          exact after_bind removed fun _ w₂ _ after => after.of_asks (Engine.asks_note trivial)
      | error e =>
          exact consistent.of_asks ((Engine.asks_note trivial).bind fun _ => Engine.asks_throw _)

theorem dropTable_maintains (t : Tracker) : Maintains t (Engine.call (.dropTable t.table)) := by
  intro w h
  rw [run_call]
  obtain ⟨e, w', called, same, leads, -⟩ | ⟨w', called, same, leads⟩ :=
    w.call_cases (.dropTable t.table)
  · rw [called]
    have spares : w.Spares t (fun _ => True) w' :=
      .of_rows leads.events (down_of_quiet rfl) (by rw [same])
    exact h.of_spares spares fun _ _ => trivial
  · rw [called]
    constructor
    · rw [leads.events]
      exact h.once.append_down (down_of_quiet rfl)
    · intro id spent
      rw [leads.events] at spent
      exact (not_spent_of_drop spent).elim

theorem partsKeep_consistent (t : Tracker) : PartsKeep (Consistent t) t where
  idle _ w idle h := h.of_spares (.of_request (.of_idle idle) w) fun _ _ => trivial
  applyOne applied _ alone := applyOne_maintains alone applied
  tryAgain _ id alone := tryAgain_maintains alone id
  takeBackOne rolledBack _ alone := takeBackOne_maintains alone rolledBack
  settle id checksum := Maintains.of_asks ((admitsSettling_spares t _).forceComplete id checksum)
  drop := dropTable_maintains t

theorem history_consistent (history : List (Source × Operation))
    (alone : ∀ step ∈ history, step.1.LeavesAlone t.table) (h : Consistent t w) :
    Consistent t (w.after t history) :=
  (partsKeep_consistent t).history history alone h

/-- In every history of operations, whichever calls and actions fail and whatever the table holds at
    first, a forward action that has succeeded is not executed again unless the row of its migration
    was deleted in between, by a step of a rollback or with the whole table. -/
theorem applied_at_most_once (t : Tracker) (history : List (Source × Operation)) (w : World)
    (start : w.events = []) (alone : ∀ step ∈ history, step.1.LeavesAlone t.table) :
    AtMostOnce t (w.after t history).events := by
  have nothing : Consistent t w := by
    constructor
    · rw [start]
      rintro before id a between a' outcome after same
      cases before <;> cases same
    · rw [start]
      rintro id ⟨before, a, between, same, -⟩
      cases before <;> cases same
  exact (history_consistent history alone nothing).once

/-- A migration is applied, taken back, applied and applied once more with a new table, while one
    call fails. -/
theorem applied_at_most_once_recreated :
    let m := Sample.first.withDown "b"
    let s : Source := .registry [m]
    let t : Tracker := ⟨.standard⟩
    let history : List (Source × Operation) :=
      [(s, .run {}), (s, .rollback .last false), (s, .run {}),
        (s, .dropAndRecreate ⟨true, t.table.text⟩), (s, .run {})]
    let w : World :=
      { World.ticking .empty with
        faults := [⟨.executeWithParams, 5, .execution "disk full"⟩] }
    (w.events = [] ∧ ∀ step ∈ history, step.1.LeavesAlone t.table) ∧
    AtMostOnce t (w.after t history).events := by
  intro m s t history w
  have listed : s.list = .ok [m] := inOrder_of_ascending (by decide)
  have same : ∀ step ∈ history, step.1 = s := by
    simp only [history, List.mem_cons, List.not_mem_nil, or_false]
    rintro step (rfl | rfl | rfl | rfl | rfl) <;> rfl
  have alone : ∀ step ∈ history, step.1.LeavesAlone t.table := fun step inside =>
    same step inside ▸ Source.leavesAlone_silent listed (by decide) t.table
  exact ⟨⟨rfl, alone⟩, applied_at_most_once t history w rfl alone⟩

end SchemaMigration
