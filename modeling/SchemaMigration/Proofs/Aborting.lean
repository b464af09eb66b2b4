import SchemaMigration.Proofs.Consent

/-! # Marking that fails

What a command that marks all migrations leaves when it ends with an error although every call on the
database succeeds. Rows are written only once the migrations are listed and the records are read, and
then nothing stands in the way. But the table is dropped before the migrations are listed, so that the
rows are lost where they cannot be (`MarkRequest.LosesRows`).
-/

namespace SchemaMigration

open World

variable {α β : Type}

def Event.isFailedCall : Event → Bool
  | called _ (.error _) => true
  | _ => false

def World.HasFailedCall (w : World) : Prop :=
  ∃ c e, Event.called c (.error e) ∈ w.events

theorem World.hasFailedCall_iff {w : World} : w.HasFailedCall ↔ w.events.any Event.isFailedCall = true := by
  rw [List.any_eq_true]
  constructor
  · rintro ⟨c, e, called⟩
    exact ⟨_, called, rfl⟩
  · rintro ⟨event, happened, failed⟩
    unfold Event.isFailedCall at failed
    split at failed
    · exact ⟨_, _, happened⟩
    · cases failed

instance (w : World) : Decidable w.HasFailedCall :=
  decidable_of_iff _ World.hasFailedCall_iff.symm

/-- Unless there `HasFailedCall`, a condition holds of the database. -/
def World.Unfailing (w : World) (P : Database → Prop) : Prop :=
  w.HasFailedCall ∨ P w.database

theorem World.HasFailedCall.respond {w : World} (h : w.HasFailedCall) (r : Request) :
    (respond r w).2.HasFailedCall :=
  h.imp fun _ => Exists.imp fun _ called => respond_on_record r called

theorem World.call_unfailing {w : World} {P : Database → Prop} (before : w.Unfailing P) (c : Call) :
    (w.call c).2.HasFailedCall ∨
      ∃ answer, (w.call c).1 = .ok answer ∧ (w.database.answer c) = (.ok answer, (w.call c).2.database) ∧
        P w.database := by
  rcases before with failed | holds
  · exact .inl (failed.respond (.call c))
  · cases called : (w.call c).1 with
    | error e =>
        have recorded := (w.call_leads c).events
        rw [called] at recorded
        exact .inl ⟨c, e, recorded ▸ List.mem_append_right _ List.mem_cons_self⟩
    | ok answer =>
        obtain ⟨e, w', same, -⟩ | ⟨w', same, database, -⟩ := w.call_cases c
        · rw [same] at called
          cases called
        · rw [same] at called ⊢
          exact .inr ⟨answer, rfl, Prod.ext called database.symm, holds⟩

namespace Engine

/-- Started where a condition holds, an operation comes to a result and a database as described, unless
    a call fails. -/
def Yields (before : Database → Prop) (x : Engine α)
    (after : Except EngineError α → Database → Prop) : Prop :=
  ∀ w : World, w.Unfailing before → (w.run x).2.Unfailing (after (w.run x).1)

variable {before : Database → Prop} {x : Engine α} {f : α → Engine β}
variable {after mid : Except EngineError α → Database → Prop}
variable {last : Except EngineError β → Database → Prop}

theorem yields_ofExcept {result : Except EngineError α} (holds : ∀ db, before db → after result db) :
    Yields before (ofExcept result) after :=
  fun w start => start.imp_right (holds w.database)

theorem yields_note {after : Except EngineError Unit → Database → Prop} (level : Level) (text : String)
    (holds : ∀ db, before db → after (.ok ()) db) : Yields before (note level text) after :=
  fun w start => start.imp (·.respond (.note level text)) (holds w.database)

theorem yields_now {after : Except EngineError Time.Reading → Database → Prop}
    (holds : ∀ now db, before db → after (.ok now) db) : Yields before now after :=
  fun w start => start.imp (·.respond .readClock) (holds _ w.database)

theorem yields_call {c : Call} {after : Except EngineError c.Result → Database → Prop}
    (holds : ∀ db answer db', before db → db.answer c = (.ok answer, db') → after (.ok answer) db') :
    Yields before (call c) after := by
  intro w start
  rw [run_call]
  rcases call_unfailing start c with failed | ⟨answer, called, answered, holds'⟩
  · exact .inl failed
  · rw [called]
    exact .inr (holds _ _ _ holds' answered)

theorem Yields.bind (first : Yields before x mid)
    (rest : ∀ a, Yields (mid (.ok a)) (f a) last)
    (stops : ∀ e db, mid (.error e) db → last (.error e) db) : Yields before (x >>= f) last := by
  intro w start
  have next := first w start
  rcases ends : w.run x with ⟨e | a, w'⟩
  · rw [ends] at next
    rw [run_bind_error ends]
    exact next.imp_right (stops e w'.database)
  · rw [ends] at next
    rw [run_bind_ok ends]
    exact rest a w' next

theorem Yields.bind_ok {reached : Database → Prop}
    (first : Yields before x fun result db => (∃ a, result = .ok a) ∧ reached db)
    (rest : ∀ a, Yields reached (f a) last) : Yields before (x >>= f) last := by
  refine first.bind (fun a w start => rest a w (start.imp_right And.right)) ?_
  rintro e db ⟨⟨a, impossible⟩, -⟩
  cases impossible

/-- Started where a condition holds, an operation succeeds and keeps it, unless a call fails. -/
def Succeeds (I : Database → Prop) (x : Engine α) : Prop :=
  Yields I x fun result db => (∃ a, result = .ok a) ∧ I db

variable {I : Database → Prop}

theorem Succeeds.bind (first : Succeeds I x) (rest : ∀ a, Succeeds I (f a)) : Succeeds I (x >>= f) :=
  first.bind_ok rest

theorem succeeds_pure (a : α) : Succeeds I (pure a) :=
  yields_ofExcept fun _ holds => ⟨⟨a, rfl⟩, holds⟩

theorem succeeds_now : Succeeds I now :=
  yields_now fun now _ holds => ⟨⟨now, rfl⟩, holds⟩

theorem succeeds_note (level : Level) (text : String) : Succeeds I (note level text) :=
  yields_note level text fun _ holds => ⟨⟨(), rfl⟩, holds⟩

theorem succeeds_call {c : Call}
    (keeps : ∀ db answer db', I db → db.answer c = (.ok answer, db') → I db') : Succeeds I (call c) :=
  yields_call fun db answer db' holds answered => ⟨⟨answer, rfl⟩, keeps db answer db' holds answered⟩

theorem Succeeds.map (h : Succeeds I x) (g : α → β) : Succeeds I (g <$> x) := by
  rw [← bind_pure_comp]
  exact h.bind fun a => succeeds_pure (g a)

theorem succeeds_forM {as : List α} {f : α → Engine PUnit} (step : ∀ a ∈ as, Succeeds I (f a)) :
    Succeeds I (as.forM f) := by
  induction as with
  | nil => exact succeeds_pure PUnit.unit
  | cons a rest ih =>
      exact (step a List.mem_cons_self).bind fun _ =>
        ih fun b inside => step b (List.mem_cons_of_mem a inside)

end Engine

def TrackingRow.IsRecord (row : TrackingRow) : Prop :=
  ∃ r, row.decode = .ok r

/-- A row that counts as completed from some time on. -/
def TrackingRow.settledAt (now : Time.Reading) (checksum : Option String) (row : TrackingRow) :
    TrackingRow :=
  { row with
    status := some completedStatus
    finishedAt := some (.ofReading now)
    checksum := checksum.or row.checksum
    failureReason := none }

theorem TrackingRow.IsRecord.settledAt {row : TrackingRow} (h : row.IsRecord) (now : Time.Reading)
    (checksum : Option String) : (row.settledAt now checksum).IsRecord := by
  obtain ⟨r, decoded⟩ := h
  obtain ⟨start, begun, read⟩ := start_of_decode decoded
  exact ⟨_, decode_finished (s := .completed) (holds_of_decode decoded).id rfl begun read rfl⟩

theorem Change.isRecord_apply {statement : Change} {table changed : TrackingTable} {affected : Nat}
    {id : MigrationId} {now : Time.Reading} {checksum : Option String}
    (completes : statement = .insertCompleted id.text now checksum ∨ statement = .settle id.text now checksum)
    (applied : statement.apply table = .ok (changed, affected))
    (records : ∀ row ∈ table.rows, row.IsRecord) : ∀ row ∈ changed.rows, row.IsRecord := by
  intro row inside
  rcases completes with rfl | rfl
  · have rows : changed.rows = table.rows ++ [(Stage.completed now now checksum).row id] :=
      TrackingTable.rows_of_insertion applied
    rw [rows, List.mem_append, List.mem_singleton] at inside
    rcases inside with old | rfl
    · exact records row old
    · exact ⟨_, Stage.decode_row ..⟩
  · cases applied
    obtain ⟨old, among, rfl⟩ := List.mem_map.mp inside
    split
    · exact (records old among).settledAt now checksum
    · exact records old among

namespace Tracker

open Engine

variable (t : Tracker)

/-- The rows of the tracking table are records. -/
def AllRecords (db : Database) : Prop :=
  ∀ row ∈ db.trackingRows t.table, row.IsRecord

theorem answer_change {db db' : Database} {statement : Change} {affected : Nat}
    (answered : db.answer (.change t.table statement) = (.ok affected, db'))
    {id : MigrationId} {now : Time.Reading} {checksum : Option String}
    (completes : statement = .insertCompleted id.text now checksum ∨ statement = .settle id.text now checksum)
    (all : t.AllRecords db) : t.AllRecords db' := by
  rcases db.change_cases t.table statement with ⟨e, refused⟩ | ⟨table, changed, n, stored, applied, ends⟩
  · cases answered.symm.trans refused
  · obtain ⟨-, rfl⟩ := Prod.mk.inj (answered.symm.trans ends)
    unfold AllRecords at all ⊢
    rw [stored.trackingRows_eq] at all
    rw [(stored.replaced changed).trackingRows_eq]
    exact Change.isRecord_apply completes applied all

theorem get?_succeeds (id : String) : Succeeds t.AllRecords (t.get? id) := by
  let found (result : Except EngineError (List TrackingRow)) (db : Database) : Prop :=
    ∃ rows, result = .ok rows ∧ (∀ row ∈ rows, row.IsRecord) ∧ t.AllRecords db
  have selects : Yields t.AllRecords (Engine.call (.select t.table (.byId id))) found := by
    refine yields_call fun db rows db' all answered => ?_
    obtain ⟨selected, rfl⟩ := Prod.mk.inj answered
    obtain ⟨table, stored, rfl⟩ := Database.stores_of_select selected
    refine ⟨_, rfl, fun row inside => all row ?_, all⟩
    rw [stored.trackingRows_eq]
    exact (List.mem_filter.mp inside).1
  refine selects.bind (fun rows => yields_ofExcept fun db holds => ?_) fun e db failed => ?_
  · obtain ⟨same, same_rows, records, all⟩ := holds
    obtain rfl := Except.ok.inj same_rows
    refine ⟨?_, all⟩
    cases first : rows.head? with
    | none => exact ⟨none, rfl⟩
    | some row =>
        obtain ⟨r, decoded⟩ := records row (List.mem_of_head? first)
        exact ⟨some r, by simp [decodeRow, decoded]; rfl⟩
  · obtain ⟨rows, impossible, -⟩ := failed
    cases impossible

theorem forceComplete_succeeds (id : MigrationId) (checksum : Option String) :
    Succeeds t.AllRecords (t.forceComplete id checksum) := by
  have completes (s : MigrationState) {statement : Change} {now : Time.Reading}
      (either : statement = .insertCompleted id.text now checksum ∨
        statement = .settle id.text now checksum) :
      Succeeds t.AllRecords (do discard (Engine.call (.change t.table statement)); return s) :=
    ((succeeds_call fun _ _ _ all answered => t.answer_change answered either all).map _).bind fun _ =>
      succeeds_pure s
  unfold forceComplete
  refine ((t.get?_succeeds id.text).map _).bind fun previous => succeeds_now.bind fun now => ?_
  -- Either statement leaves a record behind, whether or not there was a row before.
  cases previous with
  | pending => exact completes _ (.inl rfl)
  | inProgress | completed | failed => exact completes _ (.inr rfl)

end Tracker

namespace Runner

open Engine

variable (r : Runner)

theorem markSurveyed_succeeds (scope : MarkScope) (found : List Migration × List MigrationRecord) :
    Succeeds r.tracker.AllRecords (markSurveyed r.tracker scope found) := by
  refine Succeeds.bind (succeeds_forM ?_) fun _ => (succeeds_note _ _).bind fun _ => succeeds_pure _
  intro c _
  exact (r.tracker.forceComplete_succeeds c.id c.checksum).map _

/-- What reading all records comes to: the rows are kept, and it fails only where there are not
    `AllRecords`. -/
def Surveyed (rows : List TrackingRow) (result : Except EngineError α) (db : Database) : Prop :=
  db.trackingRows r.tracker.table = rows ∧
    ((∃ found, result = .ok found) ∧ r.tracker.AllRecords db ∨
      (∃ e, result = .error e) ∧ ∃ row ∈ rows, ¬row.IsRecord)

theorem list_yields (rows : List TrackingRow) :
    Yields (fun db => db.trackingRows r.tracker.table = rows) r.tracker.list (r.Surveyed rows) := by
  let found (result : Except EngineError (List TrackingRow)) (db : Database) : Prop :=
    result = .ok (rows.mergeSort TrackingRow.idNotAfter) ∧ db.trackingRows r.tracker.table = rows
  have selects : Yields (fun db => db.trackingRows r.tracker.table = rows)
      (Engine.call (.select r.tracker.table .all)) found := by
    refine yields_call fun db sorted db' kept answered => ?_
    obtain ⟨selected, rfl⟩ := Prod.mk.inj answered
    obtain ⟨table, stored, rfl⟩ := Database.stores_of_select selected
    refine ⟨?_, kept⟩
    rw [← kept, stored.trackingRows_eq]
    rfl
  refine selects.bind (fun sorted => yields_ofExcept ?_) ?_
  · rintro db ⟨same, kept⟩
    obtain rfl : sorted = rows.mergeSort TrackingRow.idNotAfter := Except.ok.inj same
    refine ⟨kept, ?_⟩
    cases decoded : (rows.mergeSort TrackingRow.idNotAfter).mapM Tracker.decodeRow with
    | ok records =>
        refine .inl ⟨⟨records, rfl⟩, fun row inside => ?_⟩
        rw [kept] at inside
        obtain ⟨record, -, own⟩ := (mem_of_mapM_ok decoded).2 row (List.mem_mergeSort.mpr inside)
        exact ⟨record, Tracker.decode_of_decodeRow own⟩
    | error e =>
        -- What is decoded is the rows in another order, so that one of them is at fault.
        obtain ⟨row, inside, fault⟩ := exists_of_mapM_error decoded
        refine .inr ⟨⟨e, rfl⟩, row, List.mem_mergeSort.mp inside, ?_⟩
        rintro ⟨record, own⟩
        rw [Tracker.decodeRow, own] at fault
        cases fault
  · rintro e db ⟨impossible, -⟩
    cases impossible

theorem ensure_succeeds (rows : List TrackingRow) :
    Succeeds (fun db => db.trackingRows r.tracker.table = rows) r.tracker.ensure := by
  have makes : Succeeds (fun db => db.trackingRows r.tracker.table = rows)
      (Engine.call (.createTable r.tracker.table)) := by
    refine succeeds_call fun db answer db' kept answered => ?_
    have same := db.trackingRows_createTable r.tracker.table r.tracker.table
    rw [answered] at same
    exact same.trans kept
  unfold Tracker.ensure
  split
  · refine (succeeds_call fun db answer db' kept answered => ?_).bind fun _ => makes
    obtain ⟨-, rfl⟩ := Prod.mk.inj answered
    exact (Database.trackingRows_congr (db.find?_createSchema _ _)).trans kept
  · exact makes

theorem survey_yields {migrations : List Migration} (listed : r.source.list = .ok migrations)
    (rows : List TrackingRow) :
    Yields (fun db => db.trackingRows r.tracker.table = rows) r.survey (r.Surveyed rows) := by
  have discovers : Succeeds (fun db => db.trackingRows r.tracker.table = rows) r.discover := by
    unfold discover
    rw [listed]
    exact succeeds_pure migrations
  refine discovers.bind_ok fun _ => (r.ensure_succeeds rows).bind_ok fun _ => ?_
  refine (r.list_yields rows).bind (fun records => yields_ofExcept ?_) ?_
  · rintro db ⟨kept, ⟨-, all⟩ | ⟨⟨e, impossible⟩, -⟩⟩
    · exact ⟨kept, .inl ⟨⟨_, rfl⟩, all⟩⟩
    · cases impossible
  · rintro e db ⟨kept, ⟨⟨found, impossible⟩, -⟩ | ⟨-, faulty⟩⟩
    · cases impossible
    · exact ⟨kept, .inr ⟨⟨e, rfl⟩, faulty⟩⟩

/-- Where the migrations are listed, marking them succeeds, or fails at a row that is no record and
    leaves all rows as they are. -/
theorem markAllCompleted_yields {migrations : List Migration} (listed : r.source.list = .ok migrations)
    (scope : MarkScope) {consent : Consent} (given : consent.isGiven = true) (rows : List TrackingRow) :
    Yields (fun db => db.trackingRows r.tracker.table = rows) (r.markAllCompleted scope consent)
      fun result db => (∃ summary, result = .ok summary) ∨
        db.trackingRows r.tracker.table = rows ∧ ∃ row ∈ rows, ¬row.IsRecord := by
  rw [markAllCompleted_eq given]
  refine (r.survey_yields listed rows).bind (fun found w start => ?_) ?_
  -- Once everything is read, all rows are records, and nothing stands in the way.
  · refine (r.markSurveyed_succeeds scope found w (start.imp_right ?_)).imp_right fun ends => .inl ends.1
    rintro ⟨kept, ⟨-, all⟩ | ⟨⟨e, impossible⟩, -⟩⟩
    · exact all
    · cases impossible
  · rintro e db ⟨kept, ⟨⟨found, impossible⟩, -⟩ | ⟨-, faulty⟩⟩
    · cases impossible
    · exact .inr ⟨kept, faulty⟩

/-- Where the migrations cannot be listed, marking them fails before anything is done. -/
theorem markAllCompleted_unlisted {e : DiscoveryError} (unlisted : r.source.list = .error e)
    (scope : MarkScope) {consent : Consent} (given : consent.isGiven = true) (w : World) :
    w.run (r.markAllCompleted scope consent) = (.error (.discovery e), w) := by
  rw [markAllCompleted_eq given]
  unfold survey discover
  rw [unlisted]
  rfl

theorem dropAndRecreate_yields {consent : DropConsent} (confirmed : consent.confirmed = true)
    (named : consent.tableName = r.tracker.table.text) :
    Yields (fun _ => True) (r.dropAndRecreate consent) fun result db =>
      (∃ u, result = .ok u) ∧ db.trackingRows r.tracker.table = [] := by
  rw [dropAndRecreate_named confirmed named]
  have drops : Yields (fun _ => True) (Engine.call (.dropTable r.tracker.table)) fun result db =>
      (∃ u, result = .ok u) ∧ db.trackingRows r.tracker.table = [] := by
    refine yields_call fun db answer db' _ answered => ⟨⟨answer, rfl⟩, ?_⟩
    obtain ⟨-, rfl⟩ := Prod.mk.inj answered
    unfold Database.trackingRows
    rw [Database.find?_drop]
  exact drops.bind_ok fun _ => (r.ensure_succeeds []).bind fun _ => succeeds_note _ _

end Runner

namespace Cli

/-- `Yields` for a part of a command. -/
def Command.Yields (before : Database → Prop) (x : Command α)
    (after : Except Failure α → Database → Prop) : Prop :=
  ∀ st : Session, st.world.Unfailing before → (x.run st).2.world.Unfailing (after (x.run st).1)

namespace Command

variable {before : Database → Prop} {x : Command α} {f : α → Command β}

theorem Yields.bind {mid : Except Failure α → Database → Prop} {last : Except Failure β → Database → Prop}
    (first : Yields before x mid) (rest : ∀ a, Yields (mid (.ok a)) (f a) last)
    (stops : ∀ e db, mid (.error e) db → last (.error e) db) : Yields before (x >>= f) last := by
  intro st start
  have next := first st start
  rcases ends : x.run st with ⟨e | a, st'⟩
  · rw [ends] at next
    rw [run_bind_error ends]
    exact next.imp_right (stops e st'.world.database)
  · rw [ends] at next
    rw [run_bind_ok ends]
    exact rest a st' next

theorem yields_line (text : String) {after : Except Failure Unit → Database → Prop}
    (holds : ∀ db, before db → after (.ok ()) db) : Yields before (line text) after :=
  fun st start => start.imp_right (holds st.world.database)

theorem yields_lines (texts : List String) {after : Except Failure Unit → Database → Prop}
    (holds : ∀ db, before db → after (.ok ()) db) : Yields before (lines texts) after :=
  fun st start => start.imp_right (holds st.world.database)

theorem yields_engine {y : Engine α} {mid : Except EngineError α → Database → Prop}
    {after : Except Failure α → Database → Prop} (h : Engine.Yields before y mid)
    (succeeds : ∀ a db, mid (.ok a) db → after (.ok a) db)
    (fails : ∀ e failure db, mid (.error e) db → after (.error failure) db) :
    Yields before (engine y) after := by
  intro st start
  have worked := h st.world start
  rw [engine_world]
  refine worked.imp_right fun holds => ?_
  obtain ⟨e, error, ends⟩ | ⟨a, ok, ends⟩ := engine_ends y st
  · rw [error] at holds
    rw [ends]
    exact fails e _ _ holds
  · rw [ok] at holds
    rw [ends]
    exact succeeds a _ holds

end Command

namespace Project

variable (p : Project)

/-- Records the migrations of a scope as completed and says so. -/
def markAll (scope : MarkScope) (consent : Consent) : Command Unit := do
  let summary ← Command.engine (p.runner.markAllCompleted scope consent)
  Command.lines summary.lines

theorem dropAndRecreate_yields {consent : DropConsent} (confirmed : consent.confirmed = true)
    (named : consent.tableName = p.trackingTable) :
    Command.Yields (fun _ => True) (p.dropAndRecreate consent) fun result db =>
      result = .ok () ∧ db.trackingRows p.runner.tracker.table = [] := by
  have drops : Command.Yields (fun _ => True) (Command.engine (p.runner.dropAndRecreate consent))
      fun result db => (∃ u, result = .ok u) ∧ db.trackingRows p.runner.tracker.table = [] := by
    refine Command.yields_engine (p.runner.dropAndRecreate_yields confirmed named)
      (fun u db holds => ⟨⟨u, rfl⟩, holds.2⟩) ?_
    rintro e failure db ⟨⟨u, impossible⟩, -⟩
    cases impossible
  refine drops.bind (fun _ => ?_) ?_
  · exact Command.yields_line _ fun db holds => ⟨rfl, holds.2⟩
  · rintro e db ⟨⟨u, impossible⟩, -⟩
    cases impossible

variable (scope : MarkScope) {consent : Consent} (given : consent.isGiven = true)
include given

theorem markAll_yields {migrations : List Migration} (listed : p.runner.source.list = .ok migrations)
    (rows : List TrackingRow) :
    Command.Yields (fun db => db.trackingRows p.runner.tracker.table = rows) (p.markAll scope consent)
      fun result db => result = .ok () ∨
        db.trackingRows p.runner.tracker.table = rows ∧ ∃ row ∈ rows, ¬row.IsRecord := by
  have marks : Command.Yields (fun db => db.trackingRows p.runner.tracker.table = rows)
      (Command.engine (p.runner.markAllCompleted scope consent)) fun result db =>
        (∃ summary, result = .ok summary) ∨
          db.trackingRows p.runner.tracker.table = rows ∧ ∃ row ∈ rows, ¬row.IsRecord := by
    refine Command.yields_engine (p.runner.markAllCompleted_yields listed scope given rows)
      (fun summary db _ => .inl ⟨summary, rfl⟩) ?_
    rintro e failure db (⟨summary, impossible⟩ | kept)
    · cases impossible
    · exact .inr kept
  refine marks.bind (fun summary => ?_) ?_
  · exact Command.yields_lines _ fun db _ => .inl rfl
  · rintro e db (⟨summary, impossible⟩ | kept)
    · cases impossible
    · exact .inr kept

theorem markAll_unlisted {e : DiscoveryError} (unlisted : p.runner.source.list = .error e) (st : Session) :
    exitCode ((p.markAll scope consent).run st).1 = 1 ∧
      ((p.markAll scope consent).run st).2.world = st.world := by
  have fails := p.runner.markAllCompleted_unlisted unlisted scope given st.world
  have world := Command.engine_world (p.runner.markAllCompleted scope consent) st
  rw [fails] at world
  obtain ⟨e', error, ends⟩ | ⟨summary, ok, -⟩ :=
    Command.engine_ends (p.runner.markAllCompleted scope consent) st
  · rw [fails] at error
    obtain rfl : EngineError.discovery e = e' := Except.error.inj error
    rw [markAll, Command.run_bind_error (Prod.ext ends rfl)]
    exact ⟨rfl, world⟩
  · rw [fails] at ok
    cases ok

theorem markAll_keeps (rows : List TrackingRow) :
    Command.Yields (fun db => db.trackingRows p.runner.tracker.table = rows) (p.markAll scope consent)
      fun result db => result = .ok () ∨ db.trackingRows p.runner.tracker.table = rows := by
  cases listed : p.runner.source.list with
  | error e =>
      intro st start
      rw [(p.markAll_unlisted scope given listed st).2]
      exact start.imp_right .inr
  | ok migrations =>
      intro st start
      exact (p.markAll_yields scope given listed rows st start).imp_right (Or.imp_right And.left)

/-- Once the table is dropped, marking succeeds if and only if the migrations can be listed, and leaves no
    row if not. -/
theorem markAll_dropped (dropConsent : DropConsent) (confirmed : dropConsent.confirmed = true)
    (named : dropConsent.tableName = p.trackingTable) :
    Command.Yields (fun _ => True) (p.dropAndRecreate dropConsent >>= fun _ => p.markAll scope consent)
      fun result db => result = .ok () ∧ (∀ e, p.runner.source.list ≠ .error e) ∨
        exitCode result = 1 ∧ db.trackingRows p.runner.tracker.table = [] ∧
          ∃ e, p.runner.source.list = .error e := by
  refine (p.dropAndRecreate_yields confirmed named).bind (fun _ st start => ?_)
    fun e db failed => nomatch failed.1
  have empty := start.imp_right And.right
  cases listed : p.runner.source.list with
  | error e =>
      obtain ⟨code, world⟩ := p.markAll_unlisted scope given listed st
      rw [world, code]
      exact empty.imp_right fun gone => .inr ⟨rfl, gone, e, rfl⟩
  | ok migrations =>
      refine (p.markAll_yields scope given listed [] st empty).imp_right ?_
      -- There is no row left that could be no record.
      rintro (ends | ⟨-, row, none_there, -⟩)
      · refine .inl ⟨ends, fun e same => ?_⟩
        cases same
      · cases none_there

end Project

/-- The rows are lost: the table is dropped with all consent, and then the migrations cannot be listed. -/
structure MarkRequest.LosesRows (r : MarkRequest) (p : Project) (first second : List UInt8) : Prop where
  drops : r.drop = true
  given : r.Given p.trackingTable first second
  unlisted : ∃ e, p.runner.source.list = .error e

/-- What a command that marks all migrations leaves of the rows when it fails although every call on the
    database succeeds (not `HasFailedCall`): all of them, or none where the table was dropped before it
    turned out that the migrations cannot be listed, as `LosesRows` says. -/
theorem failed_mark_all_rows (i : Invocation) (s : Surroundings)
    (includeFailed includeInProgress all drop : Bool) (confirmTable : Option String) (force : Bool)
    (command : i.command =
      .markAllCompleted includeFailed includeInProgress all drop confirmTable force) :
    let scope := MarkScope.ofSwitches includeFailed includeInProgress all
    let r : MarkRequest := ⟨drop, confirmTable, force, markAllQuestion scope⟩
    (∀ failure, i.options.openProject s.files = .error failure → (i.run s).files = s.files) ∧
    ∀ opened first left second rest, i.options.openProject s.files = .ok opened →
      FirstLine s.input first left → FirstLine left second rest →
      let after := (i.ending s opened).2.world
      let rows := opened.database.trackingRows opened.project.runner.tracker.table
      let rows' := after.database.trackingRows opened.project.runner.tracker.table
      ¬after.HasFailedCall →
        (r.LosesRows opened.project first second → (i.run s).code = 1 ∧ rows' = []) ∧
        (¬r.LosesRows opened.project first second → (i.run s).code ≠ 0 → rows' = rows) := by
  intro scope r
  refine ⟨fun failure fails => (i.run_unopened fails).2, ?_⟩
  intro opened first left second rest opens line line' after rows rows' calm
  have asked : i.command.markRequest? = some r := by rw [command]; rfl
  obtain ⟨code, -, -⟩ := Invocation.run_opened opens
  obtain ⟨result, session, ends, -, -, verdict⟩ :=
    Subcommand.run_ends asked opened.project (i.session s opened.database) line line'
  have ending : i.ending s opened = (result, session) := ends
  have left_behind : after = session.world := congrArg (fun ending => ending.2.world) ending
  rw [ending] at code
  have unfailed : ¬session.world.HasFailedCall := left_behind ▸ calm
  have still : rows' = session.world.database.trackingRows opened.project.runner.tracker.table := by
    rw [← left_behind]
  rw [still, code]
  rw [command] at verdict
  cases verdict with
  | refused failure _ code' lacks same =>
      refine ⟨fun loses => (lacks loses.given).elim, fun _ _ => ?_⟩
      rw [same]
      rfl
  | carriedOut consent st given consented same =>
      cases drop with
      | false =>
          have kept := opened.project.markAll_keeps scope consented rows st (.inr (by rw [same]; rfl))
          refine ⟨fun loses => (nomatch loses.drops), fun _ fails => ?_⟩
          rcases kept.resolve_left unfailed with ends | kept
          · exact (fails (congrArg exitCode ends)).elim
          · exact kept
      | true =>
          have dropped := opened.project.markAll_dropped scope consented
            ⟨true, opened.project.trackingTable⟩ rfl rfl st (.inr trivial)
          rcases dropped.resolve_left unfailed with ⟨ends, listed⟩ | ⟨one, gone, unlisted⟩
          · refine ⟨fun loses => ?_, fun _ fails => (fails (congrArg exitCode ends)).elim⟩
            obtain ⟨e, fails⟩ := loses.unlisted
            exact (listed e fails).elim
          · exact ⟨fun _ => ⟨one, gone⟩, fun keeps => (keeps ⟨rfl, given, unlisted⟩).elim⟩

/-- Where the migrations cannot be listed and nothing is dropped, marking fails and keeps the rows. -/
theorem failed_mark_all_rows_kept :
    let db : Database :=
      .holding ⟨true, [(Stage.completed (.ofMicros 0) (.ofMicros 5) none).row Sample.first.id]⟩
    let tree := projectTree db []
    let i := (Subcommand.markAllCompleted false false true false none true).plain
    let s : Surroundings := ⟨tree, [], fun _ => .ofMicros 9, false⟩
    let opened := OpenProject.unconfigured tree db
    i.options.openProject s.files = .ok opened ∧ (i.run s).code = 1 ∧
      (i.ending s opened).2.world.database.trackingRows .standard = db.trackingRows .standard := by
  intro db tree i s opened
  have opens : i.options.openProject s.files = .ok opened := by
    dsimp only [i, s, opened, tree, db]
    rfl
  have code : (i.run s).code = 1 := by
    dsimp only [i, s, opened, tree, db]
    decide +kernel
  have calm : ¬(i.ending s opened).2.world.HasFailedCall := by
    dsimp only [i, s, opened, tree, db]
    decide +kernel
  have fails : (i.run s).code ≠ 0 := by
    rw [code]
    exact Nat.one_ne_zero
  obtain ⟨-, keeps⟩ := (failed_mark_all_rows i s false false true false none true rfl).2 opened [] [] [] []
    opens (.last [] List.not_mem_nil) (.last [] List.not_mem_nil) calm
  exact ⟨opens, code, keeps (fun loses => nomatch loses.drops) fails⟩

/-- With the table dropped first, marking fails as well, and the rows are gone though no call failed. -/
theorem failed_mark_all_rows_lost :
    let db : Database :=
      .holding ⟨true, [(Stage.completed (.ofMicros 0) (.ofMicros 5) none).row Sample.first.id]⟩
    let tree := projectTree db []
    let i :=
      (Subcommand.markAllCompleted false false true true (some "__schema_migrations") true).plain
    let s : Surroundings := ⟨tree, [], fun _ => .ofMicros 9, false⟩
    let opened := OpenProject.unconfigured tree db
    i.options.openProject s.files = .ok opened ∧
      ¬(i.ending s opened).2.world.HasFailedCall ∧ (i.run s).code = 1 ∧
      (i.ending s opened).2.world.database.trackingRows .standard = [] ∧
      db.trackingRows .standard ≠ [] := by
  intro db tree i s opened
  have opens : i.options.openProject s.files = .ok opened := by
    dsimp only [i, s, opened, tree, db]
    rfl
  refine ⟨opens, ?_, ?_, ?_, ?_⟩
  · dsimp only [i, s, opened, tree, db]
    decide +kernel
  · dsimp only [i, s, opened, tree, db]
    decide +kernel
  · dsimp only [i, s, opened, tree, db]
    decide +kernel
  · dsimp only [db]
    decide +kernel

end Cli

end SchemaMigration
