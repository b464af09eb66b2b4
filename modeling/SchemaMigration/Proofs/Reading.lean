import SchemaMigration.Proofs.Creation

/-! # Reading without failures

An operation that only looks and takes notes comes to a result that is a function of the database
(`World.Reads`), and the database stays as it is. What a run has before it applies anything is such a
result, so that it can be told without running: the migrations of the source, the records of the table,
and the objections against going on.
-/

namespace SchemaMigration

open World

/-- An operation comes to a result and leaves nothing behind but events. -/
def World.Reads (w : World) {α : Type} (x : Engine α) (result : Except EngineError α) : Prop :=
  ∃ es, w.run x = (result, { w with events := es })

namespace World

variable {w : World} {α β : Type} {x : Engine α} {result : Except EngineError α}

theorem Reads.bind {f : α → Engine β} {g : α → Except EngineError β} (first : w.Reads x result)
    (next : ∀ a es, { w with events := es }.Reads (f a) (g a)) :
    w.Reads (x >>= f) (result >>= g) := by
  obtain ⟨es, ends⟩ := first
  cases result with
  | error e => exact ⟨es, run_bind_error ends f⟩
  | ok a =>
      obtain ⟨fs, ends'⟩ := next a es
      exact ⟨fs, (run_bind_ok ends f).trans ends'⟩

theorem Reads.bind_ok {f : α → Engine β} {a : α} {result : Except EngineError β}
    (first : w.Reads x (.ok a)) (next : ∀ es, { w with events := es }.Reads (f a) result) :
    w.Reads (x >>= f) result := by
  obtain ⟨es, ends⟩ := first
  obtain ⟨fs, ends'⟩ := next es
  exact ⟨fs, (run_bind_ok ends f).trans ends'⟩

theorem reads_value (w : World) (r : Except EngineError α) : w.Reads (Engine.ofExcept r) r :=
  ⟨w.events, rfl⟩

theorem reads_note (w : World) (level : Level) (text : String) :
    w.Reads (Engine.note level text) (.ok ()) :=
  ⟨_, rfl⟩

theorem reads_forM {as : List α} {f : α → Engine PUnit}
    (each : ∀ a ∈ as, ∀ es, { w with events := es }.Reads (f a) (.ok ())) :
    w.Reads (as.forM f) (.ok ()) := by
  induction as generalizing w with
  | nil => exact w.reads_value (.ok ())
  | cons a rest ih =>
      refine (each a List.mem_cons_self w.events).bind_ok fun es => ih fun b inside fs => ?_
      exact each b (List.mem_cons_of_mem a inside) fs

theorem reads_of_asks (asks : Engine.Asks Request.IsRead x) (calm : w.faults = [])
    (ends : (w.run x).1 = result) : w.Reads x result := by
  obtain ⟨es, same⟩ := events_of_asks asks calm
  exact ⟨es, Prod.ext ends same⟩

theorem reads_call (calm : w.faults = []) {c : Call} (only : Request.IsRead (.call c)) :
    w.Reads (Engine.call c) ((w.database.answer c).1.mapError .database) := by
  obtain ⟨w', called, -⟩ := call_calm calm c
  exact reads_of_asks (Engine.asks_call only) calm (by rw [run_call, called])

theorem Attempts.reads {name : TableName} {table changed : TrackingTable} {n : Nat}
    {es : List Event} (h : w.Attempts name table x result changed n es)
    (asks : Engine.Asks Request.IsRead x) (calm : w.faults = []) : w.Reads x result := by
  obtain ⟨w', ends, -⟩ := h.calm calm
  exact reads_of_asks asks calm (congrArg Prod.fst ends)

end World

namespace Tracker

/-- The records of the table in a database, in the order of their ids. -/
def recordsIn (t : Tracker) (db : Database) : Except EngineError (List MigrationRecord) := do
  let rows ← (db.select t.table .all).mapError .database
  rows.mapM decodeRow

/-- The records there are in a database: none where the table does not exist. -/
def knownIn (t : Tracker) (db : Database) : Except EngineError (List MigrationRecord) :=
  if db.has t.table.relation then t.recordsIn db else .ok []

variable {t : Tracker} {w : World} {db : Database}

theorem recordsIn_congr {db' : Database}
    (same : db'.find? t.table.relation = db.find? t.table.relation) :
    t.recordsIn db' = t.recordsIn db := by
  simp only [recordsIn, Database.select, same]

theorem recordsIn_stored {table : TrackingTable} (stored : db.Stores t.table table) :
    t.recordsIn db = (table.rows.mergeSort TrackingRow.idNotAfter).mapM decodeRow := by
  rw [recordsIn, stored.select_eq]
  rfl

theorem knownIn_stored {table : TrackingTable} (stored : db.Stores t.table table) :
    t.knownIn db = (table.rows.mergeSort TrackingRow.idNotAfter).mapM decodeRow := by
  have present : db.has t.table.relation = true := by
    rw [Database.has, show db.find? t.table.relation = _ from stored, Option.isSome_some]
  rw [knownIn, if_pos present, recordsIn_stored stored]

theorem knownIn_absent (absent : db.find? t.table.relation = none) : t.knownIn db = .ok [] := by
  rw [knownIn, Database.has, absent]
  exact if_neg Bool.false_ne_true

theorem list_reads (calm : w.faults = []) : w.Reads t.list (t.recordsIn w.database) := by
  have selects : w.Reads (Engine.call (.select t.table .all))
      ((w.database.select t.table .all).mapError .database) :=
    reads_call calm (c := .select t.table .all) trivial
  exact selects.bind fun rows es => reads_value _ (rows.mapM decodeRow)

theorem listIfCreated_reads (calm : w.faults = []) :
    w.Reads t.listIfCreated (t.knownIn w.database) := by
  have created : w.Reads t.isCreated (.ok (w.database.has t.table.relation)) :=
    reads_call calm (c := .relationExists t.table) trivial
  refine created.bind_ok fun es => ?_
  unfold knownIn
  cases w.database.has t.table.relation with
  | false => exact reads_value _ (.ok [])
  | true => exact list_reads (w := { w with events := es }) calm

theorem recordsIn_made {db' : Database}
    (made : db'.find? t.table.relation =
      (db.find? t.table.relation).or (some (.tracking .empty))) :
    t.recordsIn db' = t.knownIn db := by
  cases found : db.find? t.table.relation with
  | none =>
      rw [found, Option.none_or] at made
      rw [knownIn_absent found, recordsIn_stored made, TrackingTable.empty, List.mergeSort_nil]
      rfl
  | some relation =>
      rw [found, Option.some_or] at made
      rw [knownIn, Database.has, found, Option.isSome_some, if_pos rfl]
      exact recordsIn_congr (made.trans found.symm)

end Tracker

/-- Stops with an objection, if there is one. -/
def refusal : Option EngineError → Except EngineError Unit
  | some e => .error e
  | none => .ok ()

theorem refusal_or (a b : Option EngineError) :
    refusal (a.or b) = refusal a >>= fun _ => refusal b := by
  cases a <;> rfl

theorem refusal_eq_ok {a : Option EngineError} {u : Unit} : refusal a = .ok u ↔ a = none := by
  cases a <;> simp [refusal]

namespace Runner

/-- Failed and in-progress records stand against a run that is not forced. -/
def dirtyObjection? (force : Bool) (records : List MigrationRecord) : Option EngineError :=
  match records.filter fun r => r.state.isDirty with
  | [] => none
  | first :: rest =>
    if force then none
    else some (.dirtyState first.id first.state ((first :: rest).map MigrationRecord.id))

theorem dirtyObjection?_eq_none {force : Bool} {records : List MigrationRecord} :
    dirtyObjection? force records = none ↔
      force = true ∨ ∀ r ∈ records, r.state.isDirty = false := by
  unfold dirtyObjection?
  cases dirty : records.filter fun r => r.state.isDirty with
  | nil =>
      have clean := List.filter_eq_nil_iff.mp dirty
      exact ⟨fun _ => .inr fun r inside => Bool.eq_false_iff.mpr (clean r inside), fun _ => rfl⟩
  | cons first rest =>
      have inside := List.mem_filter.mp (dirty ▸ List.mem_cons_self : first ∈ records.filter _)
      simp only [ite_eq_left_iff, reduceCtorEq, imp_false, Bool.not_eq_true, Bool.not_eq_false]
      refine ⟨.inl, fun either => either.resolve_right fun clean => ?_⟩
      rw [clean first inside.1] at inside
      cases inside.2

/-- A target that the source does not have stands against a run. -/
def targetObjection? (migrations : List Migration) : RunTarget → Option EngineError
  | .upTo id => if migrations.any (·.id = id) then none else some (.notFound id.text)
  | .all | .steps _ => none

/-- The first migration that has changed stands against a strict run. -/
def driftObjection? (strict : Bool) (records : List MigrationRecord) (migrations : List Migration) :
    Option EngineError :=
  if strict then
    (migrations.findSome? (drift? records)).map fun d =>
      .checksumMismatch d.id d.recorded d.current
  else none

/-- What stands against a run: a `dirtyObjection?`, a `targetObjection?` or a `driftObjection?`, and the
    first one of several. -/
def objection? (o : RunOptions) (migrations : List Migration) (records : List MigrationRecord) :
    Option EngineError :=
  (dirtyObjection? o.force records).or
    ((targetObjection? migrations o.target).or
      (driftObjection? o.strictChecksums records migrations))

/-- What a run has before it applies anything. -/
def prospect (r : Runner) (o : RunOptions) (db : Database) :
    Except EngineError (List Migration × List MigrationRecord) := do
  let migrations ← r.source.list.mapError .discovery
  let records ← r.tracker.knownIn db
  refusal (objection? o migrations records)
  return (migrations, records)

section
variable (w : World) (o : RunOptions) (migrations : List Migration) (records : List MigrationRecord)

theorem checkDirty_reads (force : Bool) :
    w.Reads (checkDirty force records) (refusal (dirtyObjection? force records)) := by
  unfold checkDirty dirtyObjection?
  generalize records.filter (fun r => r.state.isDirty) = dirty
  cases dirty with
  | nil => exact w.reads_value (.ok ())
  | cons first rest =>
      cases force with
      | false => exact w.reads_value (.error _)
      | true => exact w.reads_note _ _

theorem checkTarget_reads (target : RunTarget) :
    w.Reads (checkTarget migrations target) (refusal (targetObjection? migrations target)) := by
  cases target with
  | all | steps => exact w.reads_value (.ok ())
  | upTo id =>
      simp only [checkTarget, targetObjection?]
      cases migrations.any fun m => decide (m.id = id) with
      | false => exact w.reads_value (.error _)
      | true => exact w.reads_value (.ok ())

theorem checkDrift_reads (strict : Bool) :
    w.Reads (checkDrift strict records migrations)
      (refusal (driftObjection? strict records migrations)) := by
  unfold checkDrift driftObjection?
  refine (reads_forM fun text _ es => reads_note _ _ text).bind_ok fun es => ?_
  cases strict with
  | false => exact reads_value _ (.ok ())
  | true =>
      simp only [if_true]
      cases migrations.findSome? (drift? records) with
      | none => exact reads_value _ (.ok ())
      | some d => exact reads_value _ (.error _)

theorem check_reads :
    w.Reads (check o migrations records) (refusal (objection? o migrations records)) := by
  rw [objection?, refusal_or, refusal_or]
  refine (checkDirty_reads w records o.force).bind fun _ es => ?_
  refine (checkTarget_reads _ migrations o.target).bind fun _ es => ?_
  exact checkDrift_reads _ migrations records o.strictChecksums

end

theorem discover_reads (w : World) (r : Runner) :
    w.Reads r.discover (r.source.list.mapError .discovery) :=
  w.reads_value _

/-- With no failing call, a run is prepared as `prospect` foretells from the database. -/
theorem prepare_foretold {r : Runner} {w : World} (o : RunOptions)
    (makeable : w.database.CanMake r.tracker.table) (calm : w.faults = []) :
    (w.run (r.prepare o)).1 = r.prospect o w.database := by
  unfold prepare prospect discover
  cases r.source.list.mapError EngineError.discovery with
  | error e => rfl
  | ok migrations =>
      obtain ⟨es, w₁, made, found, leads, -⟩ := Tracker.ensure_makes makeable calm
      rw [World.run_bind_ok (a := migrations) rfl, World.run_bind_ok made]
      have rest := (Tracker.list_reads (t := r.tracker) (leads.faults calm)).bind
        fun records es => (check_reads _ o migrations records).bind
          fun _ es => reads_value _ (.ok (migrations, records))
      rw [Tracker.recordsIn_made found] at rest
      obtain ⟨fs, ends⟩ := rest
      exact congrArg Prod.fst ends

/-- What a prospect needs: the source lists its migrations, the records can be read, and nothing stands
    against the run. -/
theorem prospect_eq_ok {r : Runner} {o : RunOptions} {db : Database} {migrations : List Migration}
    {records : List MigrationRecord} :
    r.prospect o db = .ok (migrations, records) ↔
      r.source.list = .ok migrations ∧ r.tracker.knownIn db = .ok records ∧
        objection? o migrations records = none := by
  unfold prospect
  cases r.source.list with
  | error e => simp [Except.mapError, bind, Except.bind]
  | ok listed =>
      cases r.tracker.knownIn db with
      | error e => simp [Except.mapError, bind, Except.bind]
      | ok known =>
          cases objects : objection? o listed known with
          | some e =>
              simp only [Except.mapError, bind, Except.bind, objects, refusal, reduceCtorEq,
                Except.ok.injEq, false_iff]
              rintro ⟨rfl, rfl, none_objects⟩
              rw [objects] at none_objects
              cases none_objects
          | none =>
              simp only [Except.mapError, bind, Except.bind, objects, refusal, pure, Except.pure,
                Except.ok.injEq, Prod.mk.injEq]
              constructor
              · rintro ⟨rfl, rfl⟩
                exact ⟨rfl, rfl, objects⟩
              · rintro ⟨rfl, rfl, -⟩
                exact ⟨rfl, rfl⟩

end Runner

end SchemaMigration
