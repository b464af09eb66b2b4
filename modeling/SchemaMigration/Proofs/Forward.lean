import SchemaMigration.Engine.Run
import SchemaMigration.Proofs.Diagram

/-! # Applying migrations

What applying migrations one after the other leaves behind, wherever it stops. A migration gets its row
before its action is executed, and the row goes through the moves of the state diagram. Four things can
cut the `Course` short: the action fails and the failure is recorded, a call fails before the row is
there, or a call fails when the outcome is to be recorded.
-/

namespace SchemaMigration

def startedRow (id : MigrationId) (start : Time.Reading) : TrackingRow :=
  Move.begin.row (.ofReading start) (.blank id)

/-- The row of a migration that was begun and completed with its current checksum. -/
def appliedRow (m : Migration) (start finish : Time.Reading) : TrackingRow :=
  (Move.complete m.checksum).row (.ofReading finish) (startedRow m.id start)

def failedRow (id : MigrationId) (start finish : Time.Reading) (reason : String) : TrackingRow :=
  (Move.fail reason).row (.ofReading finish) (startedRow id start)

/-- Every execution among events comes after the insertion of a row for its migration. -/
def Announced (t : Tracker) (es : List Event) : Prop :=
  ∀ before id d a outcome after, es = before ++ .performed id d a outcome :: after →
    ∃ now, t.carriedOut (.insertStarted id.text now) 1 ∈ before

namespace Announced

variable {t : Tracker} {es fs : List Event}

theorem of_quiet (quiet : executionsIn es = []) : Announced t es := by
  rintro before id d a outcome after rfl
  simp only [executionsIn_append, executionsIn_performed, List.append_eq_nil_iff, reduceCtorEq,
    and_false] at quiet

theorem append (first : Announced t es) (second : Announced t fs) : Announced t (es ++ fs) := by
  intro before id d a outcome after same
  rcases split_append same with ⟨rest, inside, -⟩ | ⟨rest, rfl, inside⟩
  · exact first before id d a outcome rest inside
  · obtain ⟨now, announced⟩ := second rest id d a outcome after inside
    exact ⟨now, List.mem_append_right _ announced⟩

theorem of_insertion {id : MigrationId} {now : Time.Reading} (quiet : executionsIn es = [])
    (inserted : t.carriedOut (.insertStarted id.text now) 1 ∈ es)
    (own : ∀ x ∈ executionsIn fs, x.id = id) : Announced t (es ++ fs) := by
  intro before other d a outcome after same
  rcases split_append same with ⟨rest, rfl, -⟩ | ⟨rest, rfl, rfl⟩
  · simp only [executionsIn_append, executionsIn_performed, List.append_eq_nil_iff, reduceCtorEq,
      and_false] at quiet
  · obtain rfl : other = id := by
      apply own ⟨other, d, a, outcome⟩
      rw [executionsIn_append, executionsIn_performed]
      exact List.mem_append_right _ List.mem_cons_self
    exact ⟨now, List.mem_append_left _ inserted⟩

end Announced

/-- How executing a migration and recording the outcome can end: with a result, with a row in the
    place of the one before, and with the outcome of the action. -/
inductive ForwardEnd (now : Time.Reading) (armed : Prop) (m : Migration) (row : TrackingRow) :
    Except EngineError Unit → TrackingRow → Except DbError Unit → Prop where
  | applied :
      ForwardEnd now armed m row (.ok ()) ((Move.complete m.checksum).row (.ofReading now) row)
        (.ok ())
  | failed (e : DbError) (fails : ∃ w : World, (w.perform m.id .up m.up).1 = .error e) :
      ForwardEnd now armed m row (.error (.execution ⟨m.id, .up, .failed, e.message, []⟩))
        ((Move.fail e.message).row (.ofReading now) row) (.error e)
  | unrecorded (outcome : Except DbError Unit) (e : DbError) (struck : armed) :
      ForwardEnd now armed m row (.error (.database e)) row outcome

variable {w : World} {t : Tracker} {m : Migration} {constrained : Bool}
variable {before after : List TrackingRow} {row : TrackingRow}

theorem moves_on {id : MigrationId} {status : String} (move : Move) (s : Time.Reading → Change)
    (stored : w.database.Stores t.table ⟨constrained, before ++ row :: after⟩)
    (others : ∀ r ∈ before ++ after, r.hasId id.text = false)
    (begun : row.isAt id.text status = true)
    (updates : ∀ now table, (s now).apply table =
      .ok (table.update (·.isAt id.text status) (move.row (.ofReading now)))) :
    w.Attempts t.table ⟨constrained, before ++ row :: after⟩ (t.guarded id move.transition s)
      (.ok ()) ⟨constrained, before ++ move.row (.ofReading (w.clock w.readings)) row :: after⟩ 1
      [t.carriedOut (s (w.clock w.readings)) 1] := by
  apply Tracker.guarded_attempts stored
  rw [updates, TrackingTable.update_only _ others begun]

theorem ForwardEnd.after_execution {w' : World} {x : Engine Unit} {es fs : List Event}
    {result : Except EngineError Unit} {row' : TrackingRow} {outcome : Except DbError Unit}
    (leads : w.LeadsTo 0 es w') (executed : executionsIn es = [m.forward outcome])
    (rest : w'.Attempts t.table ⟨constrained, before ++ row :: after⟩ x result
      ⟨constrained, before ++ row' :: after⟩ 1 fs) (quiet : executionsIn fs = [])
    (recorded : ForwardEnd (w.clock w.readings) (w.faults ≠ []) m row result row' outcome) :
    ∃ result row' outcome n es w'', w'.run x = (result, w'') ∧
      ForwardEnd (w.clock w.readings) (w.faults ≠ []) m row result row' outcome ∧
      w''.database.Stores t.table ⟨constrained, before ++ row' :: after⟩ ∧
      w.LeadsTo n es w'' ∧ (result = .ok () → n = 1) ∧
      executionsIn es = [m.forward outcome] := by
  cases rest with
  | answered w'' ends stores leads' =>
      refine ⟨result, row', outcome, _, _, w'', ends, recorded, stores, leads.trans leads',
        fun _ => rfl, ?_⟩
      rw [executionsIn_append, executed, quiet, List.append_nil]
  | struck e w'' n gs ends stores leads' quiet' armed =>
      refine ⟨_, row, outcome, _, _, w'', ends, .unrecorded outcome e ?_, stores,
        leads.trans leads', nofun, ?_⟩
      · exact fun calm => armed (leads.faults calm)
      · rw [executionsIn_append, executed, quiet', List.append_nil]

theorem applyForward_ends (stored : w.database.Stores t.table ⟨constrained, before ++ row :: after⟩)
    (others : ∀ r ∈ before ++ after, r.hasId m.id.text = false)
    (begun : row.isAt m.id.text inProgressStatus = true) (alone : m.up.LeavesAlone t.table) :
    ∃ result row' outcome n es w', w.run (Runner.applyForward t m) = (result, w') ∧
      ForwardEnd (w.clock w.readings) (w.faults ≠ []) m row result row' outcome ∧
      w'.database.Stores t.table ⟨constrained, before ++ row' :: after⟩ ∧
      w.LeadsTo n es w' ∧ (result = .ok () → n = 1) ∧
      executionsIn es = [m.forward outcome] := by
  unfold Runner.applyForward
  obtain ⟨batches, w₁, runs, same, leads, sent⟩ := alone.performed w m.id .up _
  generalize performs : (w.perform m.id .up m.up).1 = outcome at runs leads
  have executed := executionsIn_action sent m.id .up m.up outcome
  have kept : w₁.database.Stores t.table ⟨constrained, before ++ row :: after⟩ := same.trans stored
  rw [runs]
  have clock : w₁.clock w₁.readings = w.clock w.readings := by
    rw [leads.clock, leads.readings, Nat.add_zero]
  cases outcome with
  | ok =>
      have moved := moves_on (.complete m.checksum) (.complete m.id.text · m.checksum) kept others
        begun fun _ _ => rfl
      rw [clock] at moved
      refine ForwardEnd.after_execution leads executed (moved.close (n := 0)
        (q := [.noted .info ("Applied " ++ m.id.text)]) fun w' => ?_) rfl .applied
      exact ⟨_, w'.run_note .info _, rfl, w'.leadsTo_record _⟩
  | error e =>
      let text := "Migration " ++ m.id.text ++ " failed: " ++ e.message
      have moved := moves_on (.fail e.message) (.fail m.id.text · e.message) kept others
        begun fun _ _ => rfl
      rw [clock] at moved
      refine ForwardEnd.after_execution leads executed (moved.close (n := 0)
        (q := [.noted .error text]) fun w' => ?_) rfl (.failed e ⟨w, performs⟩)
      exact ⟨w'.record (.noted .error text), World.run_bind_ok (w'.run_note .error text) _,
        rfl, w'.leadsTo_record _⟩

/-- How a step of a run can end: with a result, with rows that are added, and with executions. The
    clock is read for the first time at `n`. -/
inductive StepEnd (clock : Nat → Time.Reading) (armed : Prop) (applied : List MigrationId)
    (m : Migration) (n : Nat) :
    Except EngineError Unit → List TrackingRow → List Execution → Prop where
  | applied :
      StepEnd clock armed applied m n (.ok ()) [appliedRow m (clock n) (clock (n + 1))]
        [m.forward (.ok ())]
  | failed (e : DbError) (fails : ∃ w : World, (w.perform m.id .up m.up).1 = .error e) :
      StepEnd clock armed applied m n
        (.error (.execution ⟨m.id, .up, .failed, e.message, applied⟩))
        [failedRow m.id (clock n) (clock (n + 1)) e.message] [m.forward (.error e)]
  | unbegun (e : DbError) (struck : armed) :
      StepEnd clock armed applied m n (.error (.database e)) [] []
  | unrecorded (outcome : Except DbError Unit) (e : DbError) (struck : armed) :
      StepEnd clock armed applied m n (.error (.database e)) [startedRow m.id (clock n)]
        [m.forward outcome]

namespace Runner

/-- A step of a run: begins a migration and executes it. -/
def applyOne (t : Tracker) (applied : List MigrationId) (m : Migration) : Engine Unit := do
  t.begin m.id
  tryCatch (applyForward t m) fun e => throw (e.after applied)

theorem applyAll_cons (t : Tracker) (applied : List MigrationId) (m : Migration)
    (rest : List Migration) :
    applyAll t applied (m :: rest) = applyOne t applied m >>= fun _ =>
      applyAll t (applied ++ [m.id]) rest := by
  simp only [applyAll, applyOne, bind_assoc]

end Runner

variable {rows : List TrackingRow} {armed : Prop}

theorem applyOne_ends (stored : w.database.Stores t.table ⟨constrained, rows⟩)
    (absent : rows.find? (·.hasId m.id.text) = none) (alone : m.up.LeavesAlone t.table)
    (applied : List MigrationId) (struck : w.faults ≠ [] → armed) :
    ∃ result new exs n es w', w.run (Runner.applyOne t applied m) = (result, w') ∧
      StepEnd w.clock armed applied m w.readings result new exs ∧
      w'.database.Stores t.table ⟨constrained, rows ++ new⟩ ∧
      w.LeadsTo n es w' ∧ (result = .ok () → n = 2) ∧
      executionsIn es = exs ∧ Announced t es := by
  have begins := Tracker.begin_attempts stored absent (Change.insertStarted_absent absent _)
  unfold Runner.applyOne
  cases begins with
  | struck e w₁ n es ends stores leads quiet armed' =>
      refine ⟨_, [], [], n, es, w₁, World.run_bind_error ends _, .unbegun e (struck armed'), ?_,
        leads, nofun, quiet, .of_quiet quiet⟩
      rwa [List.append_nil]
  | answered w₁ ends stores leads =>
      have clock : w₁.clock w₁.readings = w.clock (w.readings + 1) := by
        rw [leads.clock, leads.readings]
      let insertion := t.carriedOut (.insertStarted m.id.text (w.clock w.readings)) 1
      let row := startedRow m.id (w.clock w.readings)
      -- The row that was inserted is the last one, and the only one with the id.
      have begun : w₁.database.Stores t.table ⟨constrained, rows ++ row :: []⟩ := stores
      obtain ⟨result, row', outcome, n, es, w₂, ends', final, stores', leads', count, executed⟩ :=
        applyForward_ends begun
          (by simpa only [List.append_nil, Bool.not_eq_true] using List.find?_eq_none.mp absent)
          (TrackingRow.isAt_iff.mpr ⟨rfl, rfl⟩) alone
      rw [clock] at final
      have announced : Announced t ([t.lookedUp ⟨constrained, rows⟩ m.id.text, insertion] ++ es) := by
        have inserted : insertion ∈ [t.lookedUp ⟨constrained, rows⟩ m.id.text, insertion] :=
          List.mem_cons_of_mem _ List.mem_cons_self
        refine Announced.of_insertion rfl inserted fun x inside => ?_
        rw [executed, List.mem_singleton] at inside
        rw [inside, Migration.forward]
      have runs := World.run_bind_ok ends fun _ =>
        tryCatch (Runner.applyForward t m) fun e => throw (e.after applied)
      rw [World.run_tryCatch, ends'] at runs
      cases final with
      | applied =>
          exact ⟨_, _, _, _, _, w₂, runs, .applied, stores', leads.trans leads',
            fun _ => by rw [count rfl], executed, announced⟩
      | failed e fails =>
          exact ⟨_, _, _, _, _, w₂, runs, .failed e fails, stores', leads.trans leads', nofun, executed,
            announced⟩
      | unrecorded outcome e armed' =>
          exact ⟨_, _, _, _, _, w₂, runs,
            .unrecorded outcome e (struck fun calm => armed' (leads.faults calm)), stores',
            leads.trans leads', nofun, executed, announced⟩

/-- How applying migrations one after the other can end. -/
inductive Course (clock : Nat → Time.Reading) (armed : Prop) :
    (n : Nat) → (applied : List MigrationId) → List Migration →
    Except EngineError (List MigrationId) → List TrackingRow → List Execution → Prop where
  | finished {n : Nat} {applied : List MigrationId} :
      Course clock armed n applied [] (.ok applied) [] []
  | stopped {n : Nat} {applied : List MigrationId} {m : Migration} {rest : List Migration}
      {e : EngineError} {rows : List TrackingRow} {exs : List Execution}
      (last : StepEnd clock armed applied m n (.error e) rows exs) :
      Course clock armed n applied (m :: rest) (.error e) rows exs
  | applied {n : Nat} {applied : List MigrationId} {m : Migration} {rest : List Migration}
      {result : Except EngineError (List MigrationId)} {rows : List TrackingRow}
      {exs : List Execution}
      (next : Course clock armed (n + 2) (applied ++ [m.id]) rest result rows exs) :
      Course clock armed n applied (m :: rest) result
        (appliedRow m (clock n) (clock (n + 1)) :: rows) (m.forward (.ok ()) :: exs)

theorem Course.outcomes {clock : Nat → Time.Reading} {armed : Prop} {n : Nat}
    {applied : List MigrationId} {todo : List Migration}
    {result : Except EngineError (List MigrationId)} {new : List TrackingRow} {exs : List Execution}
    (course : Course clock armed n applied todo result new exs) (calm : ¬armed)
    (sure : ∀ m ∈ todo, ∀ w : World, (w.perform m.id .up m.up).1 = .ok ()) :
    ∀ x ∈ exs, x.outcome = .ok () := by
  induction course with
  | finished => exact fun x inside => (List.not_mem_nil inside).elim
  | stopped last =>
      cases last with
      | failed e fails =>
          obtain ⟨w, fails⟩ := fails
          cases (sure _ List.mem_cons_self w).symm.trans fails
      | unbegun e struck => exact (calm struck).elim
      | unrecorded outcome e struck => exact (calm struck).elim
  | applied next ih =>
      obtain ⟨-, others⟩ := List.forall_mem_cons.mp sure
      exact List.forall_mem_cons.mpr ⟨rfl, ih others⟩

theorem absent_of_append {rows : List TrackingRow} {row : TrackingRow} {id other : MigrationId}
    (absent : rows.find? (·.hasId other.text) = none) (own : row.id = some id.text)
    (different : other ≠ id) : (rows ++ [row]).find? (·.hasId other.text) = none := by
  rw [List.find?_append, absent, Option.none_or, List.find?_singleton, hasId_of_ne different own]
  exact if_neg Bool.false_ne_true

/-- Applying migrations without rows. The induction goes over those that are left; the rows of
    those that are done stand between the old rows and the end of the table. -/
theorem applyAll_ends (todo : List Migration) {w : World} {rows : List TrackingRow}
    (stored : w.database.Stores t.table ⟨constrained, rows⟩)
    (absent : ∀ m ∈ todo, rows.find? (·.hasId m.id.text) = none)
    (distinct : (todo.map Migration.id).Nodup) (alone : ∀ m ∈ todo, m.up.LeavesAlone t.table)
    (applied : List MigrationId) (struck : w.faults ≠ [] → armed) :
    ∃ result new exs n es w', w.run (Runner.applyAll t applied todo) = (result, w') ∧
      Course w.clock armed w.readings applied todo result new exs ∧
      w'.database.Stores t.table ⟨constrained, rows ++ new⟩ ∧
      w.LeadsTo n es w' ∧ executionsIn es = exs ∧ Announced t es ∧
      (result.toBool = true → n = 2 * todo.length) := by
  induction todo generalizing w rows applied with
  | nil =>
      refine ⟨_, [], [], 0, [], w, rfl, .finished, ?_, .refl w, rfl, .of_quiet rfl, fun _ => rfl⟩
      rwa [List.append_nil]
  | cons m rest ih =>
      rw [List.map_cons, List.nodup_cons] at distinct
      obtain ⟨result, new, exs, n, es, w₁, ends, final, stores, leads, count, executed, announced⟩ :=
        applyOne_ends stored (absent m List.mem_cons_self) (alone m List.mem_cons_self) applied
          struck
      rw [Runner.applyAll_cons]
      cases result with
      | error e =>
          exact ⟨_, new, exs, n, es, w₁, World.run_bind_error ends _, .stopped final, stores,
            leads, executed, announced, nofun⟩
      | ok =>
          -- The step took two readings of the clock, and its row is one of the old ones from here on.
          have two : n = 2 := count rfl
          subst two
          cases final with
          | applied =>
              have still_absent (other : Migration) (inside : other ∈ rest) :
                  (rows ++ [appliedRow m (w.clock w.readings) (w.clock (w.readings + 1))]).find?
                    (·.hasId other.id.text) = none := by
                refine absent_of_append (absent other (List.mem_cons_of_mem m inside)) rfl ?_
                exact fun same => distinct.1 (same ▸ List.mem_map_of_mem inside)
              obtain ⟨result, rows', exs', n', es', w₂, ends', course, stores', leads', executed',
                announced', count'⟩ :=
                ih stores still_absent distinct.2
                  (fun other inside => alone other (List.mem_cons_of_mem m inside))
                  (applied ++ [m.id]) fun armed' => struck fun calm => armed' (leads.faults calm)
              rw [leads.clock, leads.readings] at course
              refine ⟨result, _, _, _, _, w₂, ?_, .applied course, ?_, leads.trans leads', ?_,
                announced.append announced', fun succeeds => ?_⟩
              · rw [World.run_bind_ok ends, ends']
              · rwa [List.append_assoc] at stores'
              · rw [executionsIn_append, executed, executed']
                rfl
              · rw [count' succeeds, List.length_cons, Nat.mul_add, Nat.add_comm]

end SchemaMigration
