import SchemaMigration.World.Basic
import SchemaMigration.Engine.Error

/-! # Carrying out operations

How an operation is carried out in a world, request by request. A call on the database is either
struck by an armed failure, and then the database stays as it is, or answered by the database. What
an operation leaves behind is said through `LeadsTo`: how often the clock was read, and which events
were added to the record.
-/

namespace SchemaMigration

structure Execution where
  id : MigrationId
  direction : Direction
  action : Action
  outcome : Except DbError Unit

def Migration.forward (m : Migration) (outcome : Except DbError Unit) : Execution :=
  ⟨m.id, .up, m.up, outcome⟩

def Event.execution? : Event → Option Execution
  | .performed id direction action outcome => some ⟨id, direction, action, outcome⟩
  | .called .. | .noted .. => none

/-- Whether an event is a batch of statements on its way to the database. Operations of the engine
    make their own calls otherwise, except for making the tracking table. -/
def Event.IsBatch : Event → Prop
  | .called (.batch _) _ => True
  | _ => False

def executionsIn (es : List Event) : List Execution :=
  es.filterMap Event.execution?

@[simp] theorem executionsIn_append (es fs : List Event) :
    executionsIn (es ++ fs) = executionsIn es ++ executionsIn fs :=
  List.filterMap_append

@[simp] theorem executionsIn_performed (id : MigrationId) (d : Direction) (a : Action)
    (outcome : Except DbError Unit) (es : List Event) :
    executionsIn (.performed id d a outcome :: es) = ⟨id, d, a, outcome⟩ :: executionsIn es := rfl

theorem executionsIn_batches {es : List Event} (h : ∀ e ∈ es, e.IsBatch) :
    executionsIn es = [] := by
  apply List.filterMap_eq_nil_iff.mpr
  intro e inside
  cases e with
  | called | noted => rfl
  | performed => exact (h _ inside).elim

theorem executionsIn_action {es : List Event} (h : ∀ e ∈ es, e.IsBatch) (id : MigrationId)
    (d : Direction) (a : Action) (outcome : Except DbError Unit) :
    executionsIn (es ++ [.performed id d a outcome]) = [⟨id, d, a, outcome⟩] := by
  rw [executionsIn_append, executionsIn_batches h]
  rfl

theorem split_append {es fs before after : List Event} {e : Event}
    (h : es ++ fs = before ++ e :: after) :
    (∃ rest, es = before ++ e :: rest ∧ after = rest ++ fs) ∨
    ∃ rest, before = es ++ rest ∧ fs = rest ++ e :: after := by
  rcases List.append_eq_append_iff.mp h with ⟨rest, outside, inside⟩ | ⟨rest, inside, outside⟩
  · exact .inr ⟨rest, outside, inside⟩
  · cases rest with
    | nil => exact .inr ⟨[], by rw [inside, List.append_nil, List.append_nil], outside.symm⟩
    | cons first rest =>
        rw [List.cons_append] at outside
        obtain ⟨rfl, rfl⟩ := List.cons.inj outside
        exact .inl ⟨rest, inside, rfl⟩

namespace World

variable {ε α β : Type}

theorem run_bind (w : World) (x : ExceptT ε Script α) (f : α → ExceptT ε Script β) :
    w.run (x >>= f) = match w.run x with
      | (.ok a, w') => w'.run (f a)
      | (.error e, w') => (.error e, w') := by
  change Script.run respond (x.run >>= ExceptT.bindCont f) w = match Script.run respond x.run w with
    | (.ok a, w') => w'.run (f a)
    | (.error e, w') => (.error e, w')
  rw [Script.run_bind]
  generalize Script.run respond x.run w = result
  obtain ⟨a | e, w'⟩ := result <;> rfl

theorem run_bind_ok {w w' : World} {x : ExceptT ε Script α} {a : α}
    (h : w.run x = (.ok a, w')) (f : α → ExceptT ε Script β) :
    w.run (x >>= f) = w'.run (f a) := by
  rw [run_bind, h]

theorem run_bind_error {w w' : World} {x : ExceptT ε Script α} {e : ε}
    (h : w.run x = (.error e, w')) (f : α → ExceptT ε Script β) :
    w.run (x >>= f) = (.error e, w') := by
  rw [run_bind, h]

theorem bind_ok_inv {w w'' : World} {x : ExceptT ε Script α} {f : α → ExceptT ε Script β} {b : β}
    (h : w.run (x >>= f) = (.ok b, w'')) :
    ∃ a w', w.run x = (.ok a, w') ∧ w'.run (f a) = (.ok b, w'') := by
  rcases ends : w.run x with ⟨e | a, w'⟩
  · rw [run_bind_error ends] at h
    cases h
  · rw [run_bind_ok ends] at h
    exact ⟨a, w', rfl, h⟩

theorem run_tryCatch (w : World) (x : ExceptT ε Script α) (handler : ε → ExceptT ε Script α) :
    w.run (tryCatch x handler) = match w.run x with
      | (.ok a, w') => (.ok a, w')
      | (.error e, w') => w'.run (handler e) := by
  change Script.run respond (x.run >>= _) w = match Script.run respond x.run w with
    | (.ok a, w') => (.ok a, w')
    | (.error e, w') => w'.run (handler e)
  rw [Script.run_bind]
  generalize Script.run respond x.run w = result
  obtain ⟨a | e, w'⟩ := result <;> rfl

theorem run_map (w : World) (f : α → β) (x : ExceptT ε Script α) :
    w.run (f <$> x) = ((w.run x).1.map f, (w.run x).2) := by
  rw [← bind_pure_comp, run_bind]
  generalize w.run x = result
  obtain ⟨a | e, w'⟩ := result <;> rfl

theorem run_discard (w : World) (x : ExceptT ε Script α) :
    w.run (discard x) = ((w.run x).1.map fun _ => (), (w.run x).2) :=
  run_map w _ x

@[simp] theorem run_pure (w : World) (a : α) :
    w.run (pure a : ExceptT ε Script α) = (.ok a, w) := rfl

@[simp] theorem run_ofExcept (w : World) (r : Except EngineError α) :
    w.run (Engine.ofExcept r) = (r, w) := rfl

@[simp] theorem run_call (w : World) (c : Call) :
    w.run (Engine.call c) = ((w.call c).1.mapError .database, (w.call c).2) := rfl

theorem run_perform (w : World) (id : MigrationId) (d : Direction) (a : Action) :
    w.run (Engine.perform id d a) = (.ok (w.perform id d a).1, (w.perform id d a).2) := rfl

theorem run_now (w : World) :
    w.run Engine.now = (.ok (w.clock w.readings), { w with readings := w.readings + 1 }) := rfl

@[simp] theorem run_note (w : World) (level : Level) (text : String) :
    w.run (Engine.note level text) = (.ok (), w.record (.noted level text)) := rfl

/-- `w'` comes after `w`, with a number of readings of the clock and some events in between. No
    failure is armed on the way. -/
structure LeadsTo (w : World) (readings : Nat) (es : List Event) (w' : World) : Prop where
  clock : w'.clock = w.clock
  readings : w'.readings = w.readings + readings
  events : w'.events = w.events ++ es
  faults : w.faults = [] → w'.faults = []

namespace LeadsTo

theorem refl (w : World) : w.LeadsTo 0 [] w :=
  ⟨rfl, rfl, (List.append_nil _).symm, fun h => h⟩

theorem trans {w w' w'' : World} {m n : Nat} {es fs : List Event}
    (first : w.LeadsTo m es w') (second : w'.LeadsTo n fs w'') :
    w.LeadsTo (m + n) (es ++ fs) w'' where
  clock := second.clock.trans first.clock
  readings := by rw [second.readings, first.readings, Nat.add_assoc]
  events := by rw [second.events, first.events, List.append_assoc]
  faults h := second.faults (first.faults h)

end LeadsTo

theorem leadsTo_now (w : World) : w.LeadsTo 1 [] { w with readings := w.readings + 1 } :=
  ⟨rfl, rfl, (List.append_nil _).symm, fun h => h⟩

theorem leadsTo_record (w : World) (e : Event) : w.LeadsTo 0 [e] (w.record e) :=
  ⟨rfl, rfl, rfl, fun h => h⟩

@[simp] theorem strike_nil (method : Method) : ArmedFault.strike method [] = (none, []) := rfl

/-- A call is struck and leaves the database alone, or the database answers it. -/
theorem call_cases (w : World) (c : Call) :
    (∃ e w', w.call c = (.error e, w') ∧ w'.database = w.database ∧
      w.LeadsTo 0 [.called c (.error e)] w' ∧ w.faults ≠ []) ∨
    ∃ w', w.call c = ((w.database.answer c).1, w') ∧ w'.database = (w.database.answer c).2 ∧
      w.LeadsTo 0 [.called c (w.database.answer c).1] w' := by
  let left := (ArmedFault.strike c.method w.faults).2
  have none_left : w.faults = [] → left = [] := by
    intro none_armed
    simp only [left, none_armed, strike_nil]
  cases struck : (ArmedFault.strike c.method w.faults).1 with
  | some e =>
      refine .inl ⟨e, { w with faults := left }.record (.called c (.error e)), ?_, rfl,
        ⟨rfl, rfl, rfl, none_left⟩, ?_⟩
      · simp only [call, struck, left]
      · intro none_armed
        simp only [none_armed, strike_nil, reduceCtorEq] at struck
  | none =>
      refine .inr ⟨{ w with database := (w.database.answer c).2, faults := left }.record
        (.called c (w.database.answer c).1), ?_, rfl, ⟨rfl, rfl, rfl, none_left⟩⟩
      simp only [call, struck, left]

theorem answer_of_call {w w' : World} {c : Call} {answer : c.Result}
    (ends : w.run (Engine.call c) = (.ok answer, w')) :
    w.database.answer c = (.ok answer, w'.database) := by
  rw [run_call] at ends
  obtain ⟨result, rfl⟩ := Prod.mk.inj ends
  obtain ⟨e, w₁, called, -⟩ | ⟨w₁, called, same, -⟩ := w.call_cases c
  · rw [called] at result
    cases result
  · rw [called] at result
    rw [called, same]
    cases given : (w.database.answer c).1 with
    | error e =>
        rw [given] at result
        cases result
    | ok a =>
        rw [given] at result
        rw [← Except.ok.inj result, ← given]

theorem call_leads (w : World) (c : Call) :
    w.LeadsTo 0 [.called c (w.call c).1] (w.call c).2 := by
  obtain ⟨e, w', same, -, leads, -⟩ | ⟨w', same, -, leads⟩ := w.call_cases c <;> rwa [same]

theorem perform_leads (w : World) (id : MigrationId) (d : Direction) (a : Action) :
    ∃ es, (∀ e ∈ es, e.IsBatch) ∧
      w.LeadsTo 0 (es ++ [.performed id d a (w.perform id d a).1]) (w.perform id d a).2 := by
  have sent (w' : World) (sql : String) (start : w.LeadsTo 0 [] w') :
      w.LeadsTo 0 ([.called (.batch sql) (w'.batch sql).1] ++
        [.performed id d a (w'.batch sql).1])
        ((w'.batch sql).2.record (.performed id d a (w'.batch sql).1)) :=
    (start.trans (w'.call_leads (.batch sql))).trans (leadsTo_record _ _)
  have quiet (w' : World) (outcome : Except DbError Unit) (start : w.LeadsTo 0 [] w') :
      w.LeadsTo 0 ([] ++ [.performed id d a outcome])
        (w'.record (.performed id d a outcome)) :=
    start.trans (leadsTo_record _ _)
  cases a with
  | sql text =>
      simp only [perform]
      split
      · exact ⟨[], by simp, quiet w (.ok ()) (.refl w)⟩
      · exact ⟨_, by simp [Event.IsBatch], sent w text (.refl w)⟩
  | procedure fingerprint outcomes =>
      let counted := { w with executions := (id, d) :: w.executions }
      have start : w.LeadsTo 0 [] counted := ⟨rfl, rfl, (List.append_nil _).symm, fun h => h⟩
      simp only [perform, execute]
      split
      · exact ⟨[], by simp, quiet counted (.ok ()) start⟩
      · exact ⟨[], by simp, quiet counted _ start⟩
      · exact ⟨_, by simp [Event.IsBatch], sent counted _ start⟩

end World

end SchemaMigration
