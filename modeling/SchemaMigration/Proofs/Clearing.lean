import SchemaMigration.Proofs.Precedence
import SchemaMigration.Proofs.Remarking

/-! # Clearing a table

Nothing stays failed or in progress for good. Whatever a workable table shows, whether the source knows
of it or not, can be marked, one by one or all at once; then nothing but what is left stands against a
run. Nothing is assumed about the actions of migrations here, which may do anything to the table.
-/

namespace SchemaMigration

open World

variable {α β : Type}

/-- An error that can come up once the checks of a run are passed. -/
def EngineError.ComesLate : EngineError → Prop
  | execution _ | invalidState .. | corruptRecord .. | database _ => True
  | discovery _ | dirtyState .. | notFound _ | checksumMismatch .. | irreversible _
  | confirmationRequired _ | config _ => False

theorem EngineError.ComesLate.after {e : EngineError} (h : e.ComesLate) (done : List MigrationId) :
    (e.after done).ComesLate := by
  cases e <;> exact h

namespace Engine

/-- Wherever an operation is carried out, an error that it ends with `ComesLate`. -/
def FailsLate (x : Engine α) : Prop :=
  ∀ (w : World) (e : EngineError), (w.run x).1 = .error e → e.ComesLate

variable {x : Engine α} {f : α → Engine β}

theorem FailsLate.bind (first : FailsLate x) (rest : ∀ a, FailsLate (f a)) : FailsLate (x >>= f) := by
  intro w e fails
  have fails_first := first w
  rcases ends : w.run x with ⟨e' | a, w₁⟩
  · rw [run_bind_error ends] at fails
    rw [ends] at fails_first
    exact fails_first e (congrArg Except.error (Except.error.inj fails))
  · rw [run_bind_ok ends] at fails
    exact rest a w₁ e fails

theorem failsLate_ofExcept {result : Except EngineError α}
    (late : ∀ e, result = .error e → e.ComesLate) : FailsLate (ofExcept result) :=
  fun _ => late

theorem failsLate_pure (a : α) : FailsLate (pure a) := by
  intro w e fails
  rw [run_pure] at fails
  cases fails

theorem failsLate_throw {e : EngineError} (late : e.ComesLate) : FailsLate (throw e : Engine α) := by
  intro w e' fails
  obtain rfl : e = e' := Except.error.inj fails
  exact late

theorem failsLate_call (c : Call) : FailsLate (call c) := by
  intro w e fails
  rw [run_call] at fails
  cases called : (w.call c).1 with
  | ok answer =>
      rw [called] at fails
      cases fails
  | error fault =>
      rw [called] at fails
      cases fails
      trivial

theorem failsLate_now : FailsLate now := by
  rintro w e ⟨⟩

theorem failsLate_note (level : Level) (text : String) : FailsLate (note level text) := by
  rintro w e ⟨⟩

theorem failsLate_perform (id : MigrationId) (d : Direction) (a : Action) :
    FailsLate (perform id d a) := by
  rintro w e ⟨⟩

theorem FailsLate.map (h : FailsLate x) (g : α → β) : FailsLate (g <$> x) := by
  rw [← bind_pure_comp]
  exact h.bind fun a => failsLate_pure (g a)

theorem FailsLate.after (h : FailsLate x) (done : List MigrationId) :
    FailsLate (tryCatch x fun e => throw (e.after done)) := by
  intro w e fails
  have fails_first := h w
  rw [run_tryCatch] at fails
  rcases ends : w.run x with ⟨e' | a, w₁⟩
  · rw [ends] at fails fails_first
    obtain rfl : e'.after done = e := Except.error.inj fails
    exact (fails_first e' rfl).after done
  · rw [ends] at fails
    cases fails

end Engine

section
open Engine
variable (t : Tracker) (id : MigrationId)

theorem Tracker.failsLate_get? (text : String) : FailsLate (t.get? text) := by
  refine (failsLate_call _).bind fun rows => failsLate_ofExcept fun e fails => ?_
  cases first : rows.head? with
  | none =>
      rw [first] at fails
      cases fails
  | some row =>
      rw [first, Option.mapM_some] at fails
      cases decoded : Tracker.decodeRow row with
      | ok r =>
          rw [decoded] at fails
          cases fails
      | error e' =>
          rw [decoded] at fails
          cases fails
          obtain ⟨fault, -, rfl⟩ := Tracker.decodeRow_eq_error.mp decoded
          trivial

theorem Tracker.failsLate_begin : FailsLate (t.begin id) := by
  have inserts : FailsLate (do
      let now ← now
      discard (call (.change t.table (.insertStarted id.text now)))) :=
    failsLate_now.bind fun now => (failsLate_call _).map _
  refine (t.failsLate_get? id.text).bind fun record => ?_
  cases record with
  | none => exact inserts
  | some record => exact failsLate_throw trivial

theorem Tracker.failsLate_guarded (operation : Transition) (statement : Time.Reading → Change) :
    FailsLate (t.guarded id operation statement) := by
  refine failsLate_now.bind fun now => (failsLate_call _).bind fun affected => ?_
  unfold Tracker.expectTransition
  split
  · exact ((t.failsLate_get? id.text).map _).bind fun state => failsLate_throw trivial
  · exact failsLate_pure ()

theorem Runner.failsLate_applyForward (m : Migration) : FailsLate (Runner.applyForward t m) := by
  refine (failsLate_perform _ _ _).bind fun outcome => ?_
  cases outcome with
  | ok =>
      exact (t.failsLate_guarded m.id .complete fun now => .complete m.id.text now m.checksum).bind
        fun _ => failsLate_note _ _
  | error e =>
      refine (t.failsLate_guarded m.id .fail fun now => .fail m.id.text now e.message).bind fun _ => ?_
      exact (failsLate_note _ _).bind fun _ => failsLate_throw trivial

theorem Runner.failsLate_applyAll (applied : List MigrationId) (todo : List Migration) :
    FailsLate (Runner.applyAll t applied todo) := by
  induction todo generalizing applied with
  | nil => exact failsLate_pure applied
  | cons m rest ih =>
      rw [Runner.applyAll_cons]
      refine FailsLate.bind ?_ fun _ => ih _
      exact (t.failsLate_begin m.id).bind fun _ => (Runner.failsLate_applyForward t m).after applied

theorem Runner.failsLate_carryOut (o : RunOptions) (prepared : List Migration × List MigrationRecord) :
    FailsLate (Runner.carryOut t o prepared) := by
  refine (Runner.failsLate_applyAll t [] _).bind fun applied => ?_
  unfold Runner.conclude
  split
  · exact (failsLate_note _ _).bind fun _ => failsLate_pure _
  · exact failsLate_pure _

end

namespace Runner

variable {r : Runner} {o : RunOptions} {w : World} {migrations : List Migration}

theorem run_of_prospect_error {e : EngineError} (makeable : w.database.CanMake r.tracker.table)
    (calm : w.faults = []) (found : r.prospect o w.database = .error e) :
    (w.run (r.run o)).1 = .error e := by
  cases dry : o.dryRun with
  | true =>
      obtain ⟨w', ends, -⟩ := dry_run_barred dry calm found
      rw [ends]
  | false =>
      obtain ⟨w', ends, -⟩ := live_run_barred dry makeable calm found
      rw [ends]

theorem comesLate_of_prospect_ok {e : EngineError} {prepared : List Migration × List MigrationRecord}
    (makeable : w.database.CanMake r.tracker.table) (calm : w.faults = [])
    (found : r.prospect o w.database = .ok prepared) (fails : (w.run (r.run o)).1 = .error e) :
    e.ComesLate := by
  cases dry : o.dryRun with
  | true =>
      obtain ⟨es, ends, -⟩ := dry_run_ends (r := r) dry calm
      rw [ends, found] at fails
      cases fails
  | false =>
      obtain ⟨w', prepares⟩ : ∃ w', w.run (r.prepare o) = (.ok prepared, w') :=
        ⟨_, Prod.ext ((prepare_foretold o makeable calm).trans found) rfl⟩
      rw [run_eq dry, run_bind_ok prepares] at fails
      exact failsLate_carryOut r.tracker o prepared w' e fails

theorem run_dirty_iff (listed : r.source.list = .ok migrations)
    (workable : Workable r.tracker w.database) (calm : w.faults = []) (unforced : o.force = false) :
    (∃ id s ids, (w.run (r.run o)).1 = .error (.dirtyState id s ids)) ↔
      ∃ row ∈ w.database.trackingRows r.tracker.table, row.state.isDirty = true := by
  have makeable := workable.makeable
  have reserved := workable.reserved
  constructor
  · rintro ⟨id, s, ids, fails⟩
    cases found : r.prospect o w.database with
    | ok prepared => exact (comesLate_of_prospect_ok makeable calm found fails).elim
    | error e =>
        rw [run_of_prospect_error makeable calm found] at fails
        obtain rfl := Except.error.inj fails
        cases (prospect_eq_error reserved).mp found with
        | dirty first rest id ids lists readable unforced sorted own told =>
            obtain ⟨inside, dirty⟩ := List.mem_filter.mp (sorted ▸ List.mem_cons_self : first ∈ _)
            exact ⟨first, List.mem_mergeSort.mp inside, dirty⟩
  · rintro ⟨row, inside, dirty⟩
    have unclean : ¬(o.force = true ∨
        ∀ row ∈ w.database.trackingRows r.tracker.table, row.state.isDirty = false) := by
      rintro (forced | clean)
      · cases unforced.symm.trans forced
      · cases dirty.symm.trans (clean row inside)
    cases found : r.prospect o w.database with
    | ok prepared =>
        exact (unclean ((prospect_eq_unbarred reserved).mp ⟨_, found⟩).clean).elim
    | error e =>
        have fails := run_of_prospect_error makeable calm found
        cases (prospect_eq_error reserved).mp found with
        | unlisted fault unlisted => cases listed.symm.trans unlisted
        | corrupt before row after fault lists sorted readable unreadable =>
            have among : row ∈ w.database.trackingRows r.tracker.table :=
              List.mem_mergeSort.mp (sorted ▸ List.mem_append_right before List.mem_cons_self)
            obtain ⟨record, decodes⟩ := workable.legible.decodes row among
            cases decodes.symm.trans unreadable
        | dirty first rest id ids => exact ⟨_, _, _, fails⟩
        | astray id migrations listed readable clean => exact (unclean clean).elim
        | changed before m after c listed readable clean => exact (unclean clean).elim

/-- Where every migration of the source is completed and no row is dirty, a run has nothing to do. -/
theorem run_completed (listed : r.source.list = .ok migrations)
    (workable : Workable r.tracker w.database) (calm : w.faults = [])
    (clean : ∀ row ∈ w.database.trackingRows r.tracker.table, row.state.isDirty = false)
    (completed : ∀ m ∈ migrations,
      stateIn (w.database.trackingRows r.tracker.table) m.id = .completed)
    (lenient : o.strictChecksums = false) (aimed : ∀ id, o.target = .upTo id → id ∈ idsOf migrations) :
    ∃ report es w', w.run (r.run o) = (.ok report, w') ∧ report.applied = [] ∧ report.planned = [] ∧
      report.alreadyApplied = migrations.length ∧ w'.events = w.events ++ es ∧
      executionsIn es = [] ∧
      w'.database.trackingRows r.tracker.table = w.database.trackingRows r.tracker.table := by
  have unbarred : Unbarred r.source o (w.database.trackingRows r.tracker.table) migrations := by
    refine ⟨listed, workable.legible.decodes, .inr clean, aimed, fun strict => ?_⟩
    cases lenient.symm.trans strict
  obtain ⟨records, found⟩ := (prospect_eq_unbarred workable.reserved).mpr unbarred
  have decoded := workable.reserved.knownIn_eq.symm.trans (prospect_eq_ok.mp found).2.1
  have states := (Tracker.recorded_of_list decoded).stateOf_eq workable.legible
  have none_pending : pendingOf records migrations = [] := by
    apply List.filter_eq_nil_iff.mpr
    intro m inside pending
    have state := of_decide_eq_true pending
    rw [states, completed m inside] at state
    cases state
  have nothing : o.target.select (pendingOf records migrations) = [] := by
    rw [none_pending]
    exact List.sublist_nil.mp (RunTarget.select_sublist o.target [])
  have all_applied : (migrations.countP fun m => stateOf records m.id = .completed) =
      migrations.length := by
    rw [List.countP_eq_length]
    intro m inside
    rw [states, completed m inside]
    rfl
  cases dry : o.dryRun with
  | true =>
      obtain ⟨es, ends, quiet⟩ := dry_run_ends (r := r) dry calm
      rw [found] at ends
      refine ⟨_, es, _, ends, rfl, ?_, all_applied, rfl, quiet, rfl⟩
      simp only [forecast, nothing, idsOf, List.map_nil]
  | false =>
      have prepares := (prepare_foretold (r := r) o workable.makeable calm).trans found
      obtain ⟨es, w', ends, events, quiet, same⟩ := run_idle dry prepares nothing
      exact ⟨_, es, w', ends, rfl, rfl, all_applied, events, quiet, same⟩

end Runner

namespace Settled

variable {checksum? : MigrationId → Option String} {migrations : List Migration}
variable {rows rows' : List TrackingRow}

/-- When everything is marked, nothing is left but completed migrations and no row that is dirty. -/
theorem clean_all (h : Settled checksum? (MarkScope.all.Covers migrations rows) rows rows') :
    (∀ row ∈ rows', row.state.isDirty = false) ∧
      ∀ m ∈ migrations, stateIn rows' m.id = .completed := by
  have included (s : MigrationState) : MarkScope.all.includes s = true ↔ s ≠ .completed := by
    cases s <;> simp [MarkScope.includes]
  constructor
  · intro row inside
    obtain ⟨r, -, holds⟩ := h.legible.holds inside
    have shown : stateIn rows' r.id = row.state := by
      rw [stateIn, h.legible.find?_iff.mpr ⟨inside, holds.id⟩]
    rw [← shown, ← Bool.not_eq_true]
    intro dirty
    by_cases covered : MarkScope.all.Covers migrations rows r.id
    · rw [h.stateIn_chosen covered] at dirty
      cases dirty
    · rw [h.stateIn_other covered] at dirty
      refine covered (MarkScope.covers_iff.mpr ⟨(included _).mpr fun done => ?_, .inr dirty⟩)
      rw [done] at dirty
      cases dirty
  · intro m inside
    by_cases covered : MarkScope.all.Covers migrations rows m.id
    · exact h.stateIn_chosen covered
    · rw [h.stateIn_other covered]
      by_contra unfinished
      exact covered (MarkScope.covers_iff.mpr
        ⟨(included _).mpr unfinished, .inl (List.mem_map_of_mem inside)⟩)

theorem dirty_iff {id : MigrationId} (h : Settled checksum? (· = id) rows rows')
    (legible : Legible rows) :
    (∃ row ∈ rows', row.state.isDirty = true) ↔
      ∃ row ∈ rows, row.id ≠ some id.text ∧ row.state.isDirty = true := by
  have kept {row : TrackingRow} (other : row.id ≠ some id.text) : row ∈ rows' ↔ row ∈ rows := by
    refine h.mem_iff legible ?_
    rintro _ own rfl
    exact other own
  constructor
  · rintro ⟨row, inside, dirty⟩
    have other : row.id ≠ some id.text := by
      intro own
      obtain ⟨now, found⟩ := h.settled id rfl
      obtain rfl := Option.some.inj ((h.legible.find?_iff.mpr ⟨inside, own⟩).symm.trans found)
      rw [state_settledRow] at dirty
      cases dirty
    exact ⟨row, (kept other).mp inside, other, dirty⟩
  · rintro ⟨row, inside, other, dirty⟩
    exact ⟨row, (kept other).mpr inside, dirty⟩

end Settled

/-- The schema that a table's name asks for is there. -/
def Database.Houses (db : Database) (name : TableName) : Prop :=
  ∀ schema ∈ name.schema?, db.hasSchema schema = true

/-- A request that takes no schema away. -/
def Request.KeepsSchemas : Request → Prop
  | .perform .. | .call (.batch _) => False
  | _ => True

theorem admitsSettling_keepsSchemas (t : Tracker) : AdmitsSettling Request.KeepsSchemas t where
  select _ := trivial
  relationExists := trivial
  note _ _ := trivial
  createSchema _ := trivial
  createTable := trivial
  clock := trivial
  insertCompleted _ _ _ := trivial
  settle _ _ _ := trivial

namespace Database.Houses

variable {db : Database} {name : TableName} (h : db.Houses name)
include h

theorem createSchema (schema : String) : (db.createSchema schema).Houses name := by
  intro own asked
  have there := h own asked
  unfold Database.createSchema
  split
  · exact there
  · simp only [hasSchema, List.contains_eq_mem, List.mem_append, decide_eq_true_eq] at there ⊢
    exact .inl there

theorem createTable (other : TableName) : (db.answer (.createTable other)).2.Houses name := by
  simp only [answer, createTracking]
  by_cases present : db.has other.relation = true
  · rwa [if_pos present]
  by_cases placed : db.hasSchema other.relation.schema = true
  · rw [if_neg present, if_pos placed]
    exact h
  · rwa [if_neg present, if_neg placed]

theorem change (other : TableName) (statement : Change) :
    (db.change other statement).2.Houses name := by
  obtain ⟨e, same⟩ | ⟨table, changed, affected, -, -, same⟩ := db.change_cases other statement
  · rwa [same]
  · rw [same]
    exact h

end Database.Houses

theorem World.respond_houses {r : Request} {name : TableName} {w : World} (keeps : r.KeepsSchemas)
    (h : w.database.Houses name) : (respond r w).2.database.Houses name := by
  cases r with
  | note | readClock => exact h
  | perform => exact keeps.elim
  | call c =>
      change (w.call c).2.database.Houses name
      obtain ⟨e, w', called, same, -⟩ | ⟨w', called, same, -⟩ := w.call_cases c
      · rw [called, same]
        exact h
      · rw [called, same]
        cases c with
        | relationExists | select | dropTable => exact h
        | createSchema schema => exact h.createSchema schema
        | createTable other => exact h.createTable other
        | change other statement => exact h.change other statement
        | batch => exact keeps.elim

theorem World.houses_of_asks {name : TableName} {x : Engine α} {w : World}
    (asks : Engine.Asks Request.KeepsSchemas x) (h : w.database.Houses name) :
    (w.run x).2.database.Houses name :=
  Script.Asks.keeps (I := fun w' : World => w'.database.Houses name)
    (fun _ _ keeps h => World.respond_houses keeps h) asks h

theorem World.reads_still {w : World} {c : Call} (calm : w.faults = [])
    (still : (w.database.answer c).2 = w.database) :
    w.Reads (Engine.call c) ((w.database.answer c).1.mapError .database) := by
  obtain ⟨db, faults, clock, readings, executions, events⟩ := w
  obtain rfl : faults = [] := calm
  have kept : (db.answer c).2 = db := still
  have called : World.call ⟨db, [], clock, readings, executions, events⟩ c = ((db.answer c).1,
      ⟨(db.answer c).2, [], clock, readings, executions, events ++ [.called c (db.answer c).1]⟩) :=
    rfl
  rw [kept] at called
  exact ⟨_, by rw [run_call, called]⟩

theorem World.database_of_call {w w' : World} {c : Call} {answer : c.Result}
    (ends : w.run (Engine.call c) = (.ok answer, w')) : w'.database = (w.database.answer c).2 :=
  (congrArg Prod.snd (answer_of_call ends)).symm

namespace Tracker

variable {t : Tracker} {w w' : World}

theorem ensure_houses (ends : w.run t.ensure = (.ok (), w')) : w'.database.Houses t.table := by
  intro schema asked
  have given : t.table.schema? = some schema := asked
  unfold Tracker.ensure at ends
  rw [given] at ends
  obtain ⟨u, w₁, made, created⟩ := bind_ok_inv ends
  have there : w₁.database.Houses t.table := by
    intro other asked'
    obtain rfl : schema = other := Option.some.inj (given.symm.trans asked')
    rw [database_of_call (c := .createSchema schema) made]
    exact w.database.hasSchema_createSchema schema
  rw [database_of_call (c := .createTable t.table) created]
  exact there.createTable t.table schema asked

theorem ensure_reads {table : TrackingTable} (stored : w.database.Stores t.table table)
    (houses : w.database.Houses t.table) (calm : w.faults = []) : w.Reads t.ensure (.ok ()) := by
  have made : w.database.answer (.createTable t.table) = (.ok (), w.database) := by
    simp only [Database.answer, stored.createTracking_eq]
  have makes (es : List Event) :
      World.Reads { w with events := es } (Engine.call (.createTable t.table)) (.ok ()) := by
    have reads := reads_still (w := { w with events := es }) (c := .createTable t.table) calm
      (congrArg Prod.snd made)
    rwa [show (w.database.answer (.createTable t.table)).1 = _ from congrArg Prod.fst made] at reads
  unfold Tracker.ensure
  cases given : t.table.schema? with
  | none => exact makes w.events
  | some schema =>
      have there : w.database.createSchema schema = w.database := if_pos (houses schema given)
      exact (reads_still (c := .createSchema schema) calm there).bind_ok makes

end Tracker

namespace Runner

variable {r : Runner} {consent : Consent} {w w' : World} {migrations : List Migration}
variable {id : MigrationId}

theorem markCompleted_houses {text : String} {marked : Bool} (given : consent.isGiven = true)
    (ends : w.run (r.markCompleted text consent) = (.ok marked, w')) :
    w'.database.Houses r.tracker.table := by
  have settles := admitsSettling_keepsSchemas r.tracker
  unfold markCompleted at ends
  rw [given] at ends
  obtain ⟨migrations, w₁, -, rest⟩ := bind_ok_inv ends
  obtain ⟨u, w₂, makes, rest⟩ := bind_ok_inv rest
  rw [← show (w₂.run _).2 = w' from congrArg Prod.snd rest]
  refine houses_of_asks ?_ (Tracker.ensure_houses makes)
  refine (settles.markTarget migrations text).bind fun target => ?_
  refine (settles.state target.1.text).bind fun state => ?_
  split
  · exact (Engine.asks_note trivial).bind fun _ => Engine.asks_pure _
  · exact (settles.forceComplete target.1 target.2).bind fun _ =>
      (Engine.asks_note trivial).bind fun _ => Engine.asks_pure _

theorem markCompleted_again {table : TrackingTable} (given : consent.isGiven = true)
    (listed : r.source.list = .ok migrations) (stored : w.database.Stores r.tracker.table table)
    (legible : Legible table.rows) (houses : w.database.Houses r.tracker.table) (calm : w.faults = [])
    (completed : stateIn table.rows id = .completed) :
    w.Reads (r.markCompleted id.text consent) (.ok false) := by
  have discovers := discover_reads w r
  rw [listed] at discovers
  have known : id ∈ idsOf migrations ∨ stateIn table.rows id ≠ .pending := by
    rw [completed]
    exact .inr nofun
  unfold markCompleted
  rw [given]
  refine discovers.bind_ok fun es => ?_
  refine (Tracker.ensure_reads (w := { w with events := es }) stored houses calm).bind_ok fun es => ?_
  refine (markTarget_reads (w := { w with events := es }) stored legible calm known).bind_ok fun es => ?_
  have shows := Tracker.state_reads (w := { w with events := es }) stored legible calm id
  rw [completed] at shows
  refine shows.bind_ok fun es => ?_
  exact (reads_note _ _ _).bind_ok fun es => reads_value _ (.ok false)

end Runner

namespace Runner

variable {r : Runner} {consent : Consent} {w : World} {migrations : List Migration}
variable (given : consent.isGiven = true) (listed : r.source.list = .ok migrations)
variable (workable : Workable r.tracker w.database) (calm : w.faults = [])
include given listed workable calm

theorem markAll_clears :
    ∃ summary w', w.run (r.markAllCompleted .all consent) = (.ok summary, w') ∧
      Workable r.tracker w'.database ∧ w'.faults = [] ∧
      (∀ row ∈ w'.database.trackingRows r.tracker.table, row.state.isDirty = false) ∧
      ∀ m ∈ migrations, stateIn (w'.database.trackingRows r.tracker.table) m.id = .completed := by
  obtain ⟨result, w', done, marks, still, settled, -, whole⟩ :=
    markAllCompleted_ends .all given listed workable
  obtain ⟨cs, candidates, rfl, rfl⟩ := whole calm
  have covered := (settled.congr fun id => candidates.mem_select.symm).clean_all
  have asks := markAllCompleted_asks .all (admitsSettling_quiet r.tracker) given
  obtain ⟨n, es, leads, -⟩ := leadsTo_of_asks asks w
  rw [marks] at leads
  exact ⟨_, w', marks, still, leads.faults calm, covered⟩

theorem markOne_clears {row : TrackingRow} (inside : row ∈ w.database.trackingRows r.tracker.table)
    (dirty : row.state.isDirty = true) {id : MigrationId} (own : row.id = some id.text) :
    ∃ w₁ es, w.run (r.markCompleted id.text consent) = (.ok true, w₁) ∧
      w₁.run (r.markCompleted id.text consent) = (.ok false, { w₁ with events := es }) ∧
      Workable r.tracker w₁.database ∧ w₁.faults = [] ∧
      ((∃ other ∈ w₁.database.trackingRows r.tracker.table, other.state.isDirty = true) ↔
        ∃ other ∈ w.database.trackingRows r.tracker.table,
          other.id ≠ row.id ∧ other.state.isDirty = true) := by
  have shown : stateIn (w.database.trackingRows r.tracker.table) id = row.state := by
    rw [stateIn, workable.legible.find?_iff.mpr ⟨inside, own⟩]
  have unfinished : stateIn (w.database.trackingRows r.tracker.table) id ≠ .completed := by
    intro completed
    rw [← shown, completed] at dirty
    cases dirty
  have begun : stateIn (w.database.trackingRows r.tracker.table) id ≠ .pending := by
    intro pending
    rw [← shown, pending] at dirty
    cases dirty
  obtain ⟨w₁, marks, calm₁, workable₁, settled⟩ :=
    markCompleted_ends given listed workable calm unfinished (.inr begun)
  obtain ⟨table, stored⟩ : ∃ table, w₁.database.Stores r.tracker.table table := by
    refine workable₁.reserved.resolve_left fun absent => ?_
    obtain ⟨now, found⟩ := settled.settled id rfl
    simp [Database.trackingRows, absent] at found
  have completed := settled.stateIn_chosen rfl
  rw [stored.trackingRows_eq] at completed
  obtain ⟨es, again⟩ := markCompleted_again given listed stored
    (stored.trackingRows_eq ▸ workable₁.legible) (markCompleted_houses given marks) calm₁ completed
  exact ⟨w₁, es, marks, again, workable₁, calm₁, own ▸ settled.dirty_iff workable.legible⟩

end Runner

/-- On a workable table and with no failing call, to mark everything leaves nothing failed or in progress
    and a run nothing to do. Any row that is failed or in progress can be marked on its own; to mark it
    again changes nothing, and a run that is not forced is then refused for a dirty state exactly where
    another row is failed or in progress. -/
theorem everything_settles (r : Runner) (consent : Consent) (w : World) (migrations : List Migration)
    (given : consent.isGiven = true) (listed : r.source.list = .ok migrations)
    (workable : Workable r.tracker w.database) (calm : w.faults = []) :
    let rows (w : World) := w.database.trackingRows r.tracker.table
    let all := w.run (r.markAllCompleted .all consent)
    (∃ summary, all.1 = .ok summary) ∧
    (∃ report, (all.2.run r.status).1 = .ok report ∧ report.isDirty = false ∧ report.failed = []) ∧
    (∀ o : RunOptions, o.strictChecksums = false →
      (∀ id, o.target = .upTo id → id ∈ idsOf migrations) →
      ∃ report es w', all.2.run (r.run o) = (.ok report, w') ∧ report.applied = [] ∧
        report.planned = [] ∧ report.alreadyApplied = migrations.length ∧
        w'.events = all.2.events ++ es ∧ executionsIn es = [] ∧ rows w' = rows all.2) ∧
    ∀ row ∈ rows w, row.state.isDirty = true →
      ∃ id : MigrationId, row.id = some id.text ∧ ∃ w₁ es,
        w.run (r.markCompleted id.text consent) = (.ok true, w₁) ∧
        w₁.run (r.markCompleted id.text consent) = (.ok false, { w₁ with events := es }) ∧
        ∀ later ∈ [w₁, { w₁ with events := es }], ∀ o : RunOptions, o.force = false →
          ((∃ first state ids, (later.run (r.run o)).1 = .error (.dirtyState first state ids)) ↔
            ∃ other ∈ rows w, other.id ≠ row.id ∧ other.state.isDirty = true) := by
  intro rows all
  obtain ⟨summary, w', marks, workable', calm', clean, completed⟩ :=
    Runner.markAll_clears given listed workable calm
  have all_eq : all = (.ok summary, w') := marks
  rw [all_eq]
  refine ⟨⟨summary, rfl⟩, ?_, fun o lenient aimed => ?_, fun row inside dirty => ?_⟩
  · obtain ⟨records, known, decoded⟩ := workable'.known
    obtain ⟨es, reports⟩ := Runner.status_reads listed known calm'
    have none_dirty : records.filter (·.state.isDirty) = [] := by
      apply List.filter_eq_nil_iff.mpr
      intro record among dirty
      obtain ⟨row, present, holds⟩ := (Tracker.recorded_of_list decoded).of_record record among
      rw [← holds.state_eq, clean row present] at dirty
      cases dirty
    have none_failed : (statusOn migrations records).failed = [] := by
      by_contra some_failed
      exact (failed_ne_nil (workable'.legible.records_ascend decoded)).mp some_failed none_dirty
    refine ⟨_, congrArg Prod.fst reports, ?_, none_failed⟩
    rw [← Bool.not_eq_true, StatusReport.isDirty_iff, not_not]
    exact none_failed
  · exact Runner.run_completed listed workable' calm' clean completed lenient aimed
  · obtain ⟨record, -, holds⟩ := workable.legible.holds inside
    obtain ⟨w₁, es, marks, again, workable₁, calm₁, others⟩ :=
      Runner.markOne_clears given listed workable calm inside dirty holds.id
    refine ⟨record.id, holds.id, w₁, es, marks, again, fun later either o unforced => ?_⟩
    rcases List.mem_pair.mp either with rfl | rfl
    · exact (Runner.run_dirty_iff listed workable₁ calm₁ unforced).trans others
    · exact (Runner.run_dirty_iff (w := { w₁ with events := es }) listed workable₁ calm₁
        unforced).trans others

open Sample

/-- A failed migration of the source and a record in progress that belongs to none. -/
theorem everything_settles_mixed :
    let lost : MigrationId := ⟨"009", by decide⟩
    let failed : TrackingRow := (Stage.failed (.ofMicros 0) (.ofMicros 5) "no space").row first.id
    let busy : TrackingRow := (Stage.inProgress (.ofMicros 8)).row lost
    let db : Database := .holding ⟨true, [failed, busy]⟩
    let r : Runner := ⟨.registry [first, second], ⟨.standard⟩⟩
    let w := World.ticking db
    let all := w.run (r.markAllCompleted .all .ofForce)
    (Consent.ofForce.isGiven = true ∧ r.source.list = .ok [first, second] ∧
      Workable r.tracker w.database ∧ w.faults = []) ∧
    (∃ report, (all.2.run (r.run {})).1 = .ok report ∧ report.applied = [] ∧
      report.alreadyApplied = 2) ∧
    ∃ w₁, w.run (r.markCompleted lost.text .ofForce) = (.ok true, w₁) ∧
      ∃ id state ids, (w₁.run (r.run {})).1 = .error (.dirtyState id state ids) := by
  intro lost failed busy db r w all
  have listed : r.source.list = .ok [first, second] := inOrder_of_ascending (by decide)
  have legible : Legible [failed, busy] := by
    refine Staged.legible (P := fun _ _ => True) (fun row inside => ?_) (by decide)
    rcases List.mem_pair.mp inside with rfl | rfl <;> exact ⟨_, _, rfl, trivial⟩
  have stored : w.database.Stores r.tracker.table ⟨true, [failed, busy]⟩ := Database.Stores.holding _
  have workable : Workable r.tracker w.database := .of_stores stored legible
  obtain ⟨-, -, runs, each⟩ := everything_settles r .ofForce w [first, second] rfl listed workable rfl
  obtain ⟨report, es, w', ran, applied, -, counted, -⟩ := runs {} rfl nofun
  have present {row : TrackingRow} (inside : row ∈ [failed, busy]) :
      row ∈ w.database.trackingRows r.tracker.table := by
    rwa [stored.trackingRows_eq]
  obtain ⟨id, own, w₁, fs, marks, -, after⟩ := each busy (present (by simp)) rfl
  obtain rfl : lost = id := MigrationId.some_text_injective own
  have refused := (after w₁ List.mem_cons_self {} rfl).mpr
    ⟨failed, present List.mem_cons_self, by decide, rfl⟩
  exact ⟨⟨rfl, listed, workable, rfl⟩, ⟨report, congrArg Prod.fst ran, applied, counted⟩, w₁, marks,
    refused⟩

end SchemaMigration
