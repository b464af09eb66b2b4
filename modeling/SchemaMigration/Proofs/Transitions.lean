import SchemaMigration.Proofs.Execution
import SchemaMigration.Proofs.Storage

/-! # Transitions of a stored table

What each operation of the tracker comes to on a table that the database keeps. Any call of it may be
struck by an armed failure; then the operation stops there and has changed nothing. Otherwise it ends as
`Attempts` says, with the table, the readings of the clock and the events that are given.
-/

namespace SchemaMigration

namespace World

variable {α β : Type} {w : World} {name : TableName} {table changed : TrackingTable}
variable {m n : Nat} {p q : List Event}

/-- What an operation on a stored table can come to: struck, or the result that is given with the
    table, the readings and the events that go with it. -/
inductive Attempts (w : World) (name : TableName) (table : TrackingTable) (x : Engine α)
    (result : Except EngineError α) (changed : TrackingTable) (readings : Nat)
    (es : List Event) : Prop where
  | struck (e : DbError) (w' : World) (n : Nat) (fs : List Event)
      (ends : w.run x = (.error (.database e), w')) (stores : w'.database.Stores name table)
      (leads : w.LeadsTo n fs w') (quiet : executionsIn fs = []) (armed : w.faults ≠ [])
  | answered (w' : World) (ends : w.run x = (result, w'))
      (stores : w'.database.Stores name changed) (leads : w.LeadsTo readings es w')

namespace Attempts

theorem calm {x : Engine α} {result : Except EngineError α}
    (h : w.Attempts name table x result changed n p) (none_armed : w.faults = []) :
    ∃ w', w.run x = (result, w') ∧ w'.database.Stores name changed ∧ w.LeadsTo n p w' := by
  cases h with
  | struck e w' n fs ends stores leads quiet armed => exact (armed none_armed).elim
  | answered w' ends stores leads => exact ⟨w', ends, stores, leads⟩

/-- An operation that only reads the table, followed by another one. -/
theorem bind {x : Engine α} {f : α → Engine β} {a : α} {result : Except EngineError β}
    (first : w.Attempts name table x (.ok a) table m p) (quiet : executionsIn p = [])
    (next : ∀ w', w'.database.Stores name table → w.LeadsTo m p w' →
      w'.Attempts name table (f a) result changed n q) :
    w.Attempts name table (x >>= f) result changed (m + n) (p ++ q) := by
  cases first with
  | struck e w' n fs ends stores leads quiet armed =>
      exact .struck e w' n fs (run_bind_error ends f) stores leads quiet armed
  | answered w' ends stores leads =>
      cases next w' stores leads with
      | struck e w'' n fs ends' stores' leads' quiet' armed =>
          refine .struck e w'' _ _ ?_ stores' (leads.trans leads') ?_ ?_
          · rw [run_bind_ok ends, ends']
          · rw [executionsIn_append, quiet, quiet', List.append_nil]
          · exact fun none_armed => armed (leads.faults none_armed)
      | answered w'' ends' stores' leads' =>
          exact .answered w'' (by rw [run_bind_ok ends, ends']) stores' (leads.trans leads')

theorem bind_error {x : Engine α} {f : α → Engine β} {e : EngineError}
    (first : w.Attempts name table x (.error e) table m p) :
    w.Attempts name table (x >>= f) (.error e) table m p := by
  cases first with
  | struck e w' n fs ends stores leads quiet armed =>
      exact .struck e w' n fs (run_bind_error ends f) stores leads quiet armed
  | answered w' ends stores leads => exact .answered w' (run_bind_error ends f) stores leads

theorem close {x : Engine α} {f : α → Engine β} {a : α} {result : Except EngineError β}
    (first : w.Attempts name table x (.ok a) changed m p)
    (next : ∀ w' : World, ∃ w'', w'.run (f a) = (result, w'') ∧ w''.database = w'.database ∧
      w'.LeadsTo n q w'') :
    w.Attempts name table (x >>= f) result changed (m + n) (p ++ q) := by
  cases first with
  | struck e w' n fs ends stores leads quiet armed =>
      exact .struck e w' n fs (run_bind_error ends f) stores leads quiet armed
  | answered w' ends stores leads =>
      obtain ⟨w'', ends', same, leads'⟩ := next w'
      exact .answered w'' (by rw [run_bind_ok ends, ends']) (by rwa [same]) (leads.trans leads')

theorem finish {x : Engine α} {f : α → Engine β} {a : α} {result : Except EngineError β}
    (first : w.Attempts name table x (.ok a) changed m p)
    (next : ∀ w' : World, w'.run (f a) = (result, w')) :
    w.Attempts name table (x >>= f) result changed m p := by
  have closed := first.close (n := 0) (q := []) fun w' => ⟨w', next w', rfl, .refl w'⟩
  rwa [Nat.add_zero, List.append_nil] at closed

theorem map {x : Engine α} {result : Except EngineError α}
    (h : w.Attempts name table x result changed n p) (f : α → β) :
    w.Attempts name table (f <$> x) (result.map f) changed n p := by
  cases h with
  | struck e w' n fs ends stores leads quiet armed =>
      exact .struck e w' n fs (by rw [run_map, ends]; rfl) stores leads quiet armed
  | answered w' ends stores leads => exact .answered w' (by rw [run_map, ends]) stores leads

theorem not_ok {x : Engine α} {e : EngineError} (h : w.Attempts name table x (.error e) changed n p)
    (a : α) (w' : World) : w.run x ≠ (.ok a, w') := by
  cases h with
  | struck e w' n fs ends => rw [ends]; nofun
  | answered w' ends => rw [ends]; nofun

end Attempts

/-- An operation comes to a value unless an armed failure strikes it. -/
def ComesTo (w : World) (x : Engine α) (a : α) : Prop :=
  (w.run x).1 = .ok a ∨ w.faults ≠ [] ∧ ∃ e, (w.run x).1 = .error (.database e)

theorem Attempts.comesTo {x : Engine α} {a : α}
    (h : w.Attempts name table x (.ok a) changed n p) : w.ComesTo x a := by
  cases h with
  | struck e w' n fs ends stores leads quiet armed => exact .inr ⟨armed, e, by rw [ends]⟩
  | answered w' ends => exact .inl (by rw [ends])

theorem stored_of_select {w w' : World} {name : TableName} {query : Query}
    {f : List TrackingRow → Engine α} {a : α}
    (ends : w.run (Engine.call (.select name query) >>= f) = (.ok a, w')) :
    ∃ table, w.database.Stores name table := by
  have runs := w.run_bind (Engine.call (.select name query)) f
  rw [ends, run_call] at runs
  obtain ⟨e, w₁, called, -⟩ | ⟨w₁, called, -⟩ := w.call_cases (.select name query)
  · rw [called] at runs
    cases runs
  · rw [called] at runs
    cases selected : w.database.select name query with
    | error e =>
        rw [Database.answer, selected] at runs
        cases runs
    | ok rows =>
        obtain ⟨table, stored, -⟩ := Database.stores_of_select selected
        exact ⟨table, stored⟩

variable (stored : w.database.Stores name table)
include stored

theorem attempts_value (r : Except EngineError α) :
    w.Attempts name table (Engine.ofExcept r) r table 0 [] :=
  .answered w rfl stored (.refl w)

theorem attempts_now :
    w.Attempts name table Engine.now (.ok (w.clock w.readings)) table 1 [] :=
  .answered _ rfl stored (leadsTo_now w)

theorem attempts_select (query : Query) :
    w.Attempts name table (Engine.call (.select name query)) (.ok (query.run table)) table 0
      [.called (.select name query) (.ok (query.run table))] := by
  have answered : w.database.answer (.select name query) = (.ok (query.run table), w.database) :=
    congrArg (·, w.database) (stored.select_eq query)
  obtain ⟨e, w', ends, same, leads, armed⟩ | ⟨w', ends, same, leads⟩ :=
    w.call_cases (.select name query)
  · refine .struck e w' 0 _ (by rw [run_call, ends]; rfl) (by rwa [same]) leads rfl armed
  · rw [answered] at ends same leads
    exact .answered w' (by rw [run_call, ends]; rfl) (by rwa [same]) leads

theorem attempts_change {statement : Change} {affected : Nat}
    (applied : statement.apply table = .ok (changed, affected)) :
    w.Attempts name table (Engine.call (.change name statement)) (.ok affected) changed 0
      [.called (.change name statement) (.ok affected)] := by
  have answered : w.database.answer (.change name statement) =
      (.ok affected, w.database.replace name.relation (.tracking changed)) :=
    stored.change_eq applied
  obtain ⟨e, w', ends, same, leads, armed⟩ | ⟨w', ends, same, leads⟩ :=
    w.call_cases (.change name statement)
  · exact .struck e w' 0 _ (by rw [run_call, ends]; rfl) (by rwa [same]) leads rfl armed
  · rw [answered] at ends same leads
    exact .answered w' (by rw [run_call, ends]; rfl) (by rw [same]; exact stored.replaced changed)
      leads

end World

theorem MigrationRecord.state_ne_pending (r : MigrationRecord) : r.state ≠ .pending := by
  unfold state
  cases r.status <;> simp [MigrationStatus.toState]

namespace Tracker

open World

variable {w : World} {t : Tracker} {table changed : TrackingTable} {id : MigrationId}

def lookUp (rows : List TrackingRow) (id : String) : Except EngineError (Option MigrationRecord) :=
  (rows.find? (·.hasId id)).mapM decodeRow

/-- What is on record once a row with an id was looked up. -/
def lookedUp (t : Tracker) (table : TrackingTable) (id : String) : Event :=
  .called (.select t.table (.byId id)) (.ok ((Query.byId id).run table))

/-- What is on record once a statement has changed rows. -/
def carriedOut (t : Tracker) (statement : Change) (affected : Nat) : Event :=
  .called (.change t.table statement) (.ok affected)

section
variable (stored : w.database.Stores t.table table)
include stored

theorem get?_attempts (id : String) :
    w.Attempts t.table table (t.get? id) (lookUp table.rows id) table 0
      [t.lookedUp table id] := by
  change w.Attempts t.table table (Engine.call (.select t.table (.byId id)) >>=
    fun rows : List TrackingRow => Engine.ofExcept (rows.head?.mapM decodeRow)) _ table 0 _
  rw [lookUp, ← List.head?_filter]
  exact (attempts_select stored (.byId id)).bind (n := 0) (q := []) rfl
    fun w' kept _ => attempts_value kept _

theorem state_attempts (id : String) :
    w.Attempts t.table table (t.state id) ((lookUp table.rows id).map .ofRecord) table 0
      [t.lookedUp table id] :=
  (get?_attempts stored id).map _

theorem records_attempts (query : Query) :
    w.Attempts t.table table (t.records query) ((query.run table).mapM decodeRow) table 0
      [.called (.select t.table query) (.ok (query.run table))] := by
  change w.Attempts t.table table (Engine.call (.select t.table query) >>=
    fun rows : List TrackingRow => Engine.ofExcept (rows.mapM decodeRow)) _ table 0 _
  exact (attempts_select stored query).bind (n := 0) (q := []) rfl
    fun w' kept _ => attempts_value kept _

theorem list_attempts :
    w.Attempts t.table table t.list ((Query.all.run table).mapM decodeRow) table 0
      [.called (.select t.table .all) (.ok (Query.all.run table))] :=
  records_attempts stored .all

theorem begin_attempts (absent : table.rows.find? (·.hasId id.text) = none)
    (inserted : (Change.insertStarted id.text (w.clock w.readings)).apply table = .ok (changed, 1)) :
    w.Attempts t.table table (t.begin id) (.ok ()) changed 1
      [t.lookedUp table id.text,
        t.carriedOut (.insertStarted id.text (w.clock w.readings)) 1] := by
  unfold Tracker.begin
  have read := get?_attempts stored id.text
  simp only [lookUp, absent, Option.mapM_none] at read
  apply read.bind (m := 0) (n := 1) (p := [t.lookedUp table id.text]) rfl
  intro w' kept leads
  apply (attempts_now kept).bind (m := 1) (n := 0) rfl
  intro w'' kept leads'
  rw [leads.clock, leads.readings]
  exact (attempts_change kept inserted).map _

theorem begin_refused {record : MigrationRecord}
    (present : lookUp table.rows id.text = .ok (some record)) :
    w.Attempts t.table table (t.begin id) (.error (.invalidState id record.state .begin)) table 0
      [t.lookedUp table id.text] := by
  unfold Tracker.begin
  have read := get?_attempts stored id.text
  rw [present] at read
  exact read.bind (n := 0) (q := []) rfl fun w' kept _ => attempts_value kept (.error _)

/-- A transition that is possible from the state which its statement selects. Completing, failing and
    trying again are this with their own statements. -/
def guarded (t : Tracker) (id : MigrationId) (operation : Transition)
    (statement : Time.Reading → Change) : Engine Unit := do
  let now ← Engine.now
  let affected ← Engine.call (.change t.table (statement now))
  t.expectTransition id operation affected

theorem guarded_attempts (operation : Transition) {statement : Time.Reading → Change}
    {affected : Nat}
    (applied : (statement (w.clock w.readings)).apply table = .ok (changed, affected + 1)) :
    w.Attempts t.table table (t.guarded id operation statement) (.ok ()) changed 1
      [t.carriedOut (statement (w.clock w.readings)) (affected + 1)] := by
  apply (attempts_now stored).bind (m := 1) (n := 0) rfl
  intro w' kept leads
  exact (attempts_change kept applied).finish fun _ => rfl

/-- A statement that finds no row changes nothing, and the refusal tells the state there is. -/
theorem guarded_refused (operation : Transition) {statement : Time.Reading → Change}
    {record : Option MigrationRecord}
    (missed : (statement (w.clock w.readings)).apply table = .ok (table, 0))
    (found : lookUp table.rows id.text = .ok record) :
    w.Attempts t.table table (t.guarded id operation statement)
      (.error (.invalidState id (.ofRecord record) operation)) table 1
      [t.carriedOut (statement (w.clock w.readings)) 0, t.lookedUp table id.text] := by
  apply (attempts_now stored).bind (m := 1) (n := 0) rfl
  intro w' kept leads
  apply (attempts_change kept missed).bind (m := 0) (n := 0) rfl
  intro w'' kept' leads'
  have read := state_attempts kept' id.text
  rw [found] at read
  exact read.finish fun _ => rfl

theorem forceComplete_inserts (checksum : Option String)
    (absent : table.rows.find? (·.hasId id.text) = none)
    (inserted : (Change.insertCompleted id.text (w.clock w.readings) checksum).apply table =
      .ok (changed, 1)) :
    w.Attempts t.table table (t.forceComplete id checksum) (.ok .pending) changed 1
      [t.lookedUp table id.text,
        t.carriedOut (.insertCompleted id.text (w.clock w.readings) checksum) 1] := by
  have read := state_attempts stored id.text
  simp only [lookUp, absent, Option.mapM_none] at read
  apply read.bind (m := 0) (n := 1) (p := [t.lookedUp table id.text]) rfl
  intro w' kept leads
  apply (attempts_now kept).bind (m := 1) (n := 0) rfl
  intro w'' kept leads'
  rw [leads.clock, leads.readings]
  exact ((attempts_change kept inserted).map _).finish fun _ => rfl

theorem forceComplete_settles (checksum : Option String) {record : MigrationRecord} {affected : Nat}
    (present : lookUp table.rows id.text = .ok (some record))
    (settled : (Change.settle id.text (w.clock w.readings) checksum).apply table =
      .ok (changed, affected)) :
    w.Attempts t.table table (t.forceComplete id checksum) (.ok record.state) changed 1
      [t.lookedUp table id.text,
        t.carriedOut (.settle id.text (w.clock w.readings) checksum) affected] := by
  have read : w.Attempts t.table table (t.state id.text) (.ok record.state) table 0
      [t.lookedUp table id.text] := by
    have read := state_attempts stored id.text
    rwa [present] at read
  have known := record.state_ne_pending
  generalize record.state = previous at read known ⊢
  apply read.bind (m := 0) (n := 1) (p := [t.lookedUp table id.text]) rfl
  intro w' kept leads
  apply (attempts_now kept).bind (m := 1) (n := 0) rfl
  intro w'' kept leads'
  rw [leads.clock, leads.readings]
  cases previous with
  | pending => exact (known rfl).elim
  | inProgress | completed | failed =>
      exact ((attempts_change kept settled).map _).finish fun _ => rfl

theorem remove_attempts {affected : Nat}
    (removed : (Change.delete id.text).apply table = .ok (changed, affected)) :
    w.Attempts t.table table (t.remove id) (.ok (decide (0 < affected))) changed 0
      [t.carriedOut (.delete id.text) affected] :=
  (attempts_change stored removed).finish fun _ => rfl

end

theorem run_remove (t : Tracker) (id : MigrationId) (w : World) :
    w.run (discard (t.remove id)) =
      (((w.call (.change t.table (.delete id.text))).1.map fun _ => ()).mapError .database,
        (w.call (.change t.table (.delete id.text))).2) := by
  have runs := w.run_bind (Engine.call (.change t.table (.delete id.text))) fun affected : Nat =>
    (pure (decide (0 < affected)) : Engine Bool)
  rw [run_call] at runs
  rw [run_discard]
  refine (congrArg (fun r => (r.1.map fun _ => (), r.2)) runs).trans ?_
  rcases w.call (.change t.table (.delete id.text)) with ⟨e | affected, w'⟩ <;> rfl

theorem absent_of_get? {w' : World} {id : String} (ends : w.run (t.get? id) = (.ok none, w')) :
    ∀ row ∈ w'.database.trackingRows t.table, row.id ≠ some id := by
  obtain ⟨table, stored⟩ := World.stored_of_select ends
  cases get?_attempts stored id with
  | struck e w₁ n es ends' =>
      rw [ends'] at ends
      cases ends
  | answered w₁ ends' stores =>
      rw [ends'] at ends
      obtain ⟨found, rfl⟩ := Prod.mk.inj ends
      have absent : table.rows.find? (·.hasId id) = none := by
        cases first : table.rows.find? (·.hasId id) with
        | none => rfl
        | some row =>
            rw [lookUp, first, Option.mapM_some] at found
            cases decoded : decodeRow row <;> rw [decoded] at found <;> cases found
      rw [stores.trackingRows_eq]
      simpa using absent

theorem absent_of_pending {w' : World} {id : String}
    (ends : w.run (t.state id) = (.ok .pending, w')) :
    ∀ row ∈ w'.database.trackingRows t.table, row.id ≠ some id := by
  rw [state, World.run_map] at ends
  rcases looked : w.run (t.get? id) with ⟨e | record, w₁⟩
  · rw [looked] at ends
    cases ends
  · rw [looked] at ends
    obtain ⟨shown, rfl⟩ := Prod.mk.inj ends
    cases record with
    | none => exact absent_of_get? looked
    | some r => exact (r.state_ne_pending (Except.ok.inj shown)).elim

end Tracker

end SchemaMigration
