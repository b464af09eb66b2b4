import SchemaMigration.Proofs.Records
import SchemaMigration.Proofs.Requests

/-! # The preparation of a run

Before a run applies anything, it lists the migrations of the source, makes the table where it is
missing, reads it and makes its checks. None of that executes anything or touches a row (`Idles`),
whatever fails on the way.
-/

namespace SchemaMigration

/-- A request that leaves the database as it is. -/
def Request.IsRead : Request → Prop
  | .note .. => True
  | .call (.relationExists _) | .call (.select ..) => True
  | _ => False

/-- A request that changes no rows of a tracking table: a note, or a call that reads or that makes
    what is missing. -/
def Request.IsIdle : Request → Prop
  | .note .. => True
  | .call (.relationExists _) | .call (.createSchema _) | .call (.createTable _)
  | .call (.select ..) => True
  | _ => False

def Request.IsNote : Request → Prop
  | .note .. => True
  | _ => False

namespace World

variable {w w' : World} {name : TableName} {α : Type}

/-- `w'` comes after `w` with nothing executed in between, no reading of the clock and the rows of
    the table as they were. -/
structure Idles (w : World) (name : TableName) (w' : World) : Prop where
  rows : w'.database.trackingRows name = w.database.trackingRows name
  leads : ∃ es, w.LeadsTo 0 es w' ∧ executionsIn es = []

theorem Idles.refl (w : World) (name : TableName) : w.Idles name w :=
  ⟨rfl, [], .refl w, rfl⟩

theorem Idles.trans {w'' : World} (first : w.Idles name w') (second : w'.Idles name w'') :
    w.Idles name w'' := by
  obtain ⟨es, leads, quiet⟩ := first.leads
  obtain ⟨fs, leads', quiet'⟩ := second.leads
  refine ⟨second.rows.trans first.rows, es ++ fs, leads.trans leads', ?_⟩
  rw [executionsIn_append, quiet, quiet', List.append_nil]

theorem call_idles (w : World) (c : Call)
    (kept : (w.database.answer c).2.trackingRows name = w.database.trackingRows name) :
    w.Idles name (w.call c).2 := by
  refine ⟨?_, _, w.call_leads c, rfl⟩
  obtain ⟨e, w', ends, same, -⟩ | ⟨w', ends, same, -⟩ := w.call_cases c
  · rw [ends, same]
  · rw [ends, same, kept]

theorem respond_idles {r : Request} (idle : r.IsIdle) (w : World) :
    w.Idles name (respond r w).2 := by
  cases r with
  | note level text => exact ⟨rfl, _, w.leadsTo_record _, rfl⟩
  | readClock | perform => exact idle.elim
  | call c =>
      apply w.call_idles c
      cases c with
      | relationExists | select => rfl
      | createSchema schema =>
          exact Database.trackingRows_congr (w.database.find?_createSchema schema name.relation)
      | createTable other => exact w.database.trackingRows_createTable name other
      | dropTable | change | batch => exact idle.elim

theorem idles_of_asks (name : TableName) {x : Engine α} (asks : Engine.Asks Request.IsIdle x)
    (w : World) : w.Idles name (w.run x).2 :=
  Script.Asks.keeps (fun _ w' idle so_far => Idles.trans so_far (respond_idles idle w')) asks
    (Idles.refl w name)

theorem database_of_asks {x : Engine α} (asks : Engine.Asks Request.IsRead x) (w : World) :
    (w.run x).2.database = w.database := by
  refine Script.Asks.keeps (I := fun w' : World => w'.database = w.database) ?_ asks rfl
  intro r w' reads same
  cases r with
  | note level text => exact same
  | readClock | perform => exact reads.elim
  | call c =>
      change (w'.call c).2.database = w.database
      obtain ⟨e, w'', ends, kept, -⟩ | ⟨w'', ends, kept, -⟩ := w'.call_cases c
      · rw [ends, kept, same]
      · rw [ends, kept, ← same]
        cases c with
        | relationExists | select => rfl
        | createSchema | createTable | dropTable | change | batch => exact reads.elim

/-- With no failure armed, what only reads leaves nothing behind but events. -/
theorem events_of_asks {x : Engine α} (asks : Engine.Asks Request.IsRead x)
    (calm : w.faults = []) : ∃ es, (w.run x).2 = { w with events := es } := by
  obtain ⟨db, faults, clock, readings, executions, events⟩ := w
  obtain rfl : faults = [] := calm
  let I (w' : World) : Prop := ∃ es, w' = ⟨db, [], clock, readings, executions, es⟩
  refine Script.Asks.keeps (I := I) ?_ asks ⟨events, rfl⟩
  rintro r - reads ⟨es, rfl⟩
  cases r with
  | note level text => exact ⟨_, rfl⟩
  | readClock | perform => exact reads.elim
  | call c =>
      cases c with
      | relationExists | select => exact ⟨_, rfl⟩
      | createSchema | createTable | dropTable | change | batch => exact reads.elim

theorem result_of_notes {x : Engine α} (asks : Engine.Asks Request.IsNote x) (w w' : World) :
    (w.run x).1 = (w'.run x).1 := by
  have any (script : Script (Except EngineError α)) (notes : script.Asks Request.IsNote)
      (w w' : World) : (script.run respond w).1 = (script.run respond w').1 := by
    induction script generalizing w w' with
    | done r => rfl
    | request r next ih =>
        cases r with
        | note level text => exact ih () (notes.2 ()) _ _
        | call | readClock | perform => exact notes.1.elim
  exact any x.run asks w w'

theorem run_notes (w : World) (level : Level) (texts : List String) :
    ∃ w', w.run (texts.forM (Engine.note level)) = (.ok (), w') := by
  induction texts generalizing w with
  | nil => exact ⟨w, rfl⟩
  | cons text rest ih =>
      obtain ⟨w', ends⟩ := ih (w.record (.noted level text))
      refine ⟨w', ?_⟩
      rw [List.forM_eq_forM, List.forM_cons, run_bind_ok (w.run_note level text)]
      exact ends

end World

theorem admitsLooking_read (t : Tracker) : AdmitsLooking Request.IsRead t where
  select _ := trivial
  relationExists := trivial
  note _ _ := trivial

theorem admitsMaking_idle (t : Tracker) : AdmitsMaking Request.IsIdle t where
  select _ := trivial
  relationExists := trivial
  note _ _ := trivial
  createSchema _ := trivial
  createTable := trivial

/-- A tracking table has the name, or nothing has and the schema is there to make it in. -/
def Database.CanTrack (db : Database) (name : TableName) : Prop :=
  (∃ table, db.Stores name table) ∨
    (db.find? name.relation = none ∧ db.hasSchema name.relation.schema = true)

namespace Database.CanTrack

variable {db : Database} {name : TableName}

theorem createSchema (h : db.CanTrack name) (schema : String) :
    (db.createSchema schema).CanTrack name := by
  rcases h with ⟨table, stored⟩ | ⟨absent, placed⟩
  · exact .inl ⟨table, (db.find?_createSchema schema name.relation).trans stored⟩
  · refine .inr ⟨(db.find?_createSchema schema name.relation).trans absent, ?_⟩
    unfold Database.createSchema
    split
    · exact placed
    · simp only [hasSchema, List.contains_eq_mem, List.mem_append, decide_eq_true_eq] at placed ⊢
      exact .inl placed

theorem createTable (h : db.CanTrack name) :
    ∃ table db', db.answer (.createTable name) = (.ok (), db') ∧ db'.Stores name table := by
  rcases h with ⟨table, stored⟩ | ⟨absent, placed⟩
  · refine ⟨table, db, ?_, stored⟩
    simp only [answer, stored.createTracking_eq]
  · refine ⟨.empty, db.add name.relation (.tracking .empty), ?_, ?_⟩
    · simp only [answer, createTracking, has, absent, placed, Option.isSome_none,
        Bool.false_eq_true, if_false, if_true]
    · rw [Stores, find?_add, absent, Option.none_or, if_pos rfl]

end Database.CanTrack

theorem World.call_calm {w : World} (calm : w.faults = []) (c : Call) :
    ∃ w', w.call c = ((w.database.answer c).1, w') ∧ w'.database = (w.database.answer c).2 ∧
      w'.faults = [] := by
  obtain ⟨e, w', -, -, -, armed⟩ | ⟨w', called, same, leads⟩ := w.call_cases c
  · exact (armed calm).elim
  · exact ⟨w', called, same, leads.faults calm⟩

theorem Tracker.ensure_succeeds {t : Tracker} {w : World}
    (trackable : w.database.CanTrack t.table) (calm : w.faults = []) :
    ∃ w' table, w.run t.ensure = (.ok (), w') ∧ w'.database.Stores t.table table ∧
      w'.faults = [] := by
  have make (w : World) (trackable : w.database.CanTrack t.table) (calm : w.faults = []) :
      ∃ w' table, w.run (Engine.call (.createTable t.table)) = (.ok (), w') ∧
        w'.database.Stores t.table table ∧ w'.faults = [] := by
    obtain ⟨table, db, made, stored⟩ := trackable.createTable
    obtain ⟨w', called, same, calm'⟩ := World.call_calm calm (.createTable t.table)
    rw [made] at called same
    exact ⟨w', table, by rw [World.run_call, called]; rfl, same ▸ stored, calm'⟩
  unfold Tracker.ensure
  split
  · rename_i schema _
    obtain ⟨w₁, called, same, calm₁⟩ := World.call_calm calm (.createSchema schema)
    have trackable₁ : w₁.database.CanTrack t.table := same ▸ trackable.createSchema schema
    have first : w.run (Engine.call (.createSchema schema)) = (.ok (), w₁) := by
      rw [World.run_call, called]
      rfl
    obtain ⟨w', table, made, stored, calm'⟩ := make w₁ trackable₁ calm₁
    exact ⟨w', table, (World.run_bind_ok first _).trans made, stored, calm'⟩
  · exact make w trackable calm

namespace Runner

/-- The checks of a run, one after the other. -/
def check (o : RunOptions) (migrations : List Migration) (records : List MigrationRecord) :
    Engine Unit := do
  checkDirty o.force records
  checkTarget migrations o.target
  checkDrift o.strictChecksums records migrations

/-- What a run does before it applies anything. -/
def prepare (r : Runner) (o : RunOptions) : Engine (List Migration × List MigrationRecord) := do
  let migrations ← r.discover
  r.tracker.ensure
  let records ← r.tracker.list
  check o migrations records
  return (migrations, records)

/-- What a run that applied migrations reports. -/
def reportOn (migrations : List Migration) (records : List MigrationRecord)
    (applied : List MigrationId) : RunReport where
  applied
  planned := []
  skippedDirty := idsOf (dirtyOf records migrations)
  drifted := migrations.filterMap fun m => (drift? records m).map ChecksumMismatch.id
  alreadyApplied := migrations.countP fun m => stateOf records m.id = .completed
  dryRun := false

/-- The end of a run that applied all it had selected. -/
def conclude (report : RunReport) : Engine RunReport := do
  if report.applied.isEmpty then Engine.note .info "No pending migrations"
  return report

/-- What a run does with the migrations and the records that `prepare` gives. -/
def carryOut (t : Tracker) (o : RunOptions)
    (prepared : List Migration × List MigrationRecord) : Engine RunReport := do
  let applied ← applyAll t [] (o.target.select (pendingOf prepared.2 prepared.1))
  conclude (reportOn prepared.1 prepared.2 applied)

theorem run_eq {o : RunOptions} (live : o.dryRun = false) (r : Runner) :
    r.run o = r.prepare o >>= carryOut r.tracker o := by
  simp only [run, prepare, check, carryOut, conclude, reportOn, live, Bool.false_eq_true, if_false,
    bind_assoc, pure_bind]

theorem conclude_ends (w : World) (report : RunReport) :
    ∃ es w', w.run (conclude report) = (.ok report, w') ∧ w'.database = w.database ∧
      w.LeadsTo 0 es w' ∧ executionsIn es = [] := by
  unfold conclude
  cases report.applied.isEmpty with
  | false =>
      rw [if_neg Bool.false_ne_true]
      exact ⟨[], w, w.run_pure report, rfl, .refl w, rfl⟩
  | true =>
      rw [if_pos rfl]
      exact ⟨_, _, World.run_bind_ok (w.run_note .info _) _, rfl, w.leadsTo_record _, rfl⟩

theorem check_asks {P : Request → Prop} (note : ∀ level text, P (.note level text)) (o : RunOptions)
    (migrations : List Migration) (records : List MigrationRecord) :
    Engine.Asks P (check o migrations records) :=
  (Engine.asks_checkDirty note _ _).bind fun _ => (Engine.asks_checkTarget _ _).bind fun _ =>
    Engine.asks_checkDrift note _ _ _

/-- The report of a dry run. -/
def forecast (o : RunOptions) (prepared : List Migration × List MigrationRecord) : RunReport :=
  { reportOn prepared.1 prepared.2 [] with
    planned := idsOf (o.target.select (pendingOf prepared.2 prepared.1))
    dryRun := true }

/-- What a dry run does before it tells its `forecast`. -/
def foresee (r : Runner) (o : RunOptions) : Engine (List Migration × List MigrationRecord) := do
  let migrations ← r.discover
  let records ← r.tracker.listIfCreated
  check o migrations records
  return (migrations, records)

/-- Tells what would be applied. -/
def tell (o : RunOptions) (prepared : List Migration × List MigrationRecord) :
    Engine RunReport := do
  (o.target.select (pendingOf prepared.2 prepared.1)).forM fun m =>
    Engine.note .info ("Would apply " ++ m.id.text)
  return forecast o prepared

theorem run_eq_dry {o : RunOptions} (dry : o.dryRun = true) (r : Runner) :
    r.run o = r.foresee o >>= tell o := by
  simp only [run, foresee, check, tell, forecast, reportOn, dry, if_true, bind_assoc, pure_bind]

theorem asks_dryRun {P : Request → Prop} {r : Runner} (h : AdmitsLooking P r.tracker)
    {o : RunOptions} (dry : o.dryRun = true) : Engine.Asks P (r.run o) := by
  rw [run_eq_dry dry]
  have foresees : Engine.Asks P (r.foresee o) :=
    (Engine.asks_ofExcept _).bind fun migrations => h.listIfCreated.bind fun records =>
      (check_asks h.note o migrations records).bind fun _ => Engine.asks_pure _
  refine foresees.bind fun prepared => ?_
  exact (Engine.asks_forM fun _ _ => Engine.asks_note (h.note _ _)).bind fun _ => Engine.asks_pure _

theorem records_stored {t : Tracker} {w w' : World} {query : Query} {records : List MigrationRecord}
    (ends : w.run (t.records query) = (.ok records, w')) :
    ∃ table, w'.database.Stores t.table table ∧
      (query.run table).mapM Tracker.decodeRow = .ok records := by
  obtain ⟨table, stored⟩ := World.stored_of_select ends
  have reads := Tracker.records_attempts stored query
  cases decoded : (query.run table).mapM Tracker.decodeRow with
  | error e =>
      rw [decoded] at reads
      exact (reads.not_ok records w' ends).elim
  | ok records' =>
      rw [decoded] at reads
      cases reads with
      | struck e w₁ n es ends' =>
          rw [ends'] at ends
          cases ends
      | answered w₁ ends' stores =>
          rw [ends'] at ends
          cases ends
          exact ⟨table, stores, decoded⟩

/-- A run is past its preparation: it has the migrations of the source and the records of the table,
    and they pass its checks. -/
structure Prepared (r : Runner) (o : RunOptions) (rows : List TrackingRow)
    (migrations : List Migration) (records : List MigrationRecord) : Prop where
  listed : r.source.list = .ok migrations
  decoded : (rows.mergeSort TrackingRow.idNotAfter).mapM Tracker.decodeRow = .ok records
  passes : ∀ w : World, ∃ w', w.run (check o migrations records) = (.ok (), w')

namespace Prepared

variable {r : Runner} {o : RunOptions} {rows : List TrackingRow} {migrations : List Migration}
variable {records : List MigrationRecord} (h : r.Prepared o rows migrations records)
include h

theorem recorded : Recorded rows records :=
  Tracker.recorded_of_list h.decoded

theorem decodes : ∀ row ∈ rows, ∃ r, row.decode = .ok r := by
  intro row inside
  obtain ⟨r, -, decoded⟩ := (mem_of_mapM_ok h.decoded).2 row (List.mem_mergeSort.mpr inside)
  exact ⟨r, Tracker.decode_of_decodeRow decoded⟩

end Prepared

/-- However a preparation ends, nothing was executed and no row was touched. -/
theorem prepare_ends (r : Runner) (o : RunOptions) (w : World) :
    ∃ result w', w.run (r.prepare o) = (result, w') ∧ w.Idles r.tracker.table w' ∧
      ∀ migrations records, result = .ok (migrations, records) →
        r.Prepared o (w.database.trackingRows r.tracker.table) migrations records ∧
        ∃ table, w'.database.Stores r.tracker.table table := by
  have idle := admitsMaking_idle r.tracker
  unfold prepare discover
  cases listed : r.source.list with
  | error e => exact ⟨_, w, rfl, .refl w _, nofun⟩
  | ok migrations =>
      rw [World.run_bind_ok (a := migrations) rfl]
      have idles₁ := World.idles_of_asks r.tracker.table idle.ensure w
      rcases made : w.run r.tracker.ensure with ⟨e | _, w₁⟩
      · rw [made] at idles₁
        exact ⟨_, w₁, World.run_bind_error made _, idles₁, nofun⟩
      rw [made] at idles₁
      rw [World.run_bind_ok made]
      have idles₂ : w₁.Idles r.tracker.table (w₁.run r.tracker.list).2 :=
        World.idles_of_asks r.tracker.table (idle.records .all) w₁
      rcases read : w₁.run r.tracker.list with ⟨e | records, w₂⟩
      · rw [read] at idles₂
        exact ⟨_, w₂, World.run_bind_error read _, idles₁.trans idles₂, nofun⟩
      rw [read] at idles₂
      obtain ⟨table, stored, decoded⟩ := records_stored read
      have same : table.rows = w.database.trackingRows r.tracker.table :=
        stored.trackingRows_eq.symm.trans (idles₁.trans idles₂).rows
      rw [World.run_bind_ok read]
      have idles₃ := World.idles_of_asks r.tracker.table
        (check_asks idle.note o migrations records) w₂
      -- The checks only read, so that the table is still the one that the records were had of.
      have reads := World.database_of_asks
        (check_asks (admitsLooking_read r.tracker).note o migrations records) w₂
      rcases checked : w₂.run (check o migrations records) with ⟨e | _, w₃⟩
      · rw [checked] at idles₃
        exact ⟨_, w₃, World.run_bind_error checked _, (idles₁.trans idles₂).trans idles₃, nofun⟩
      · rw [checked] at idles₃ reads
        refine ⟨_, w₃, World.run_bind_ok checked _, (idles₁.trans idles₂).trans idles₃, ?_⟩
        intro migrations' records' ends
        cases ends
        refine ⟨⟨listed, same ▸ decoded, fun w' => ?_⟩, table, reads ▸ stored⟩
        have notes : Engine.Asks Request.IsNote (check o migrations records) :=
          check_asks (fun _ _ => trivial) o migrations records
        have passes := World.result_of_notes notes w' w₂
        rw [checked] at passes
        exact ⟨(w'.run (check o migrations records)).2, Prod.ext passes rfl⟩

/-- Nothing stands in the way of a run: no migration was begun and not completed, unless the run is
    forced; the target is in the source; and no definition has changed, where the run is strict. -/
structure Cleared (o : RunOptions) (rows : List TrackingRow) (migrations : List Migration) :
    Prop where
  clean : o.force = true ∨ ∀ row ∈ rows, row.state.isDirty = false
  target : ∀ id, o.target = .upTo id → ∃ m ∈ migrations, m.id = id
  undrifted : o.strictChecksums = true → ∀ m ∈ migrations, hasDrifted rows m = false

section
variable {o : RunOptions} {rows : List TrackingRow} {migrations : List Migration}
variable {records : List MigrationRecord}

theorem checkDirty_succeeds (recorded : Recorded rows records)
    (clean : o.force = true ∨ ∀ row ∈ rows, row.state.isDirty = false) (w : World) :
    ∃ w', w.run (checkDirty o.force records) = (.ok (), w') := by
  unfold checkDirty
  split
  · exact ⟨w, w.run_pure ()⟩
  · rename_i first rest found
    rcases clean with forced | clean
    · rw [forced]
      exact ⟨_, w.run_note .warn _⟩
    · have dirty : first ∈ records.filter fun r => r.state.isDirty := found ▸ List.mem_cons_self
      rw [List.mem_filter] at dirty
      obtain ⟨row, inside, holds⟩ := recorded.of_record first dirty.1
      have settled := clean row inside
      rw [holds.state_eq, dirty.2] at settled
      cases settled

theorem checkTarget_succeeds (found : ∀ id, o.target = .upTo id → ∃ m ∈ migrations, m.id = id)
    (w : World) : ∃ w', w.run (checkTarget migrations o.target) = (.ok (), w') := by
  cases target : o.target with
  | all | steps => exact ⟨w, w.run_pure ()⟩
  | upTo id =>
      obtain ⟨m, inside, same⟩ := found id target
      have present : migrations.any (fun m => decide (m.id = id)) = true :=
        List.any_eq_true.mpr ⟨m, inside, decide_eq_true same⟩
      refine ⟨w, ?_⟩
      simp only [checkTarget, present, Bool.not_true, Bool.false_eq_true, if_false]
      exact w.run_pure ()

theorem checkDrift_succeeds (recorded : Recorded rows records) (legible : Legible rows)
    (undrifted : o.strictChecksums = true → ∀ m ∈ migrations, hasDrifted rows m = false)
    (w : World) : ∃ w', w.run (checkDrift o.strictChecksums records migrations) = (.ok (), w') := by
  have matching : (if o.strictChecksums then migrations.findSome? (drift? records) else none) =
      none := by
    cases strict : o.strictChecksums with
    | false => rfl
    | true =>
        rw [if_pos rfl, List.findSome?_eq_none_iff]
        intro m inside
        apply Option.map_eq_none_iff.mp
        rw [recorded.drift?_id legible, undrifted strict m inside]
        rfl
  obtain ⟨w', ends⟩ := w.run_notes .warn
    (((if o.strictChecksums then migrations.takeWhile fun m => (drift? records m).isNone
      else migrations).filterMap (warning? records)))
  refine ⟨w', ?_⟩
  simp only [checkDrift, matching]
  exact World.run_bind_ok ends _

theorem check_succeeds (recorded : Recorded rows records) (legible : Legible rows)
    (cleared : Cleared o rows migrations) (w : World) :
    ∃ w', w.run (check o migrations records) = (.ok (), w') := by
  obtain ⟨w₁, clean⟩ := checkDirty_succeeds recorded cleared.clean w
  obtain ⟨w₂, targeted⟩ := checkTarget_succeeds cleared.target w₁
  obtain ⟨w₃, undrifted⟩ := checkDrift_succeeds recorded legible cleared.undrifted w₂
  refine ⟨w₃, ?_⟩
  rw [check, World.run_bind_ok clean, World.run_bind_ok targeted, undrifted]

end

theorem Prepared.succeeds {r : Runner} {o : RunOptions} {w : World} {migrations : List Migration}
    {records : List MigrationRecord}
    (h : r.Prepared o (w.database.trackingRows r.tracker.table) migrations records)
    (trackable : w.database.CanTrack r.tracker.table) (calm : w.faults = []) :
    ∃ w', w.run (r.prepare o) = (.ok (migrations, records), w') := by
  have idles := World.idles_of_asks r.tracker.table (admitsMaking_idle r.tracker).ensure w
  obtain ⟨w₁, table, made, stored, calm₁⟩ := Tracker.ensure_succeeds trackable calm
  rw [made] at idles
  have decoded : (Query.all.run table).mapM Tracker.decodeRow = .ok records := by
    rw [← h.decoded, ← idles.rows, stored.trackingRows_eq]
    rfl
  have lists := Tracker.list_attempts stored
  rw [decoded] at lists
  obtain ⟨w₂, read, -, -⟩ := lists.calm calm₁
  obtain ⟨w₃, checked⟩ := h.passes w₂
  refine ⟨w₃, ?_⟩
  unfold prepare discover
  rw [h.listed, World.run_bind_ok (a := migrations) rfl, World.run_bind_ok made,
    World.run_bind_ok read, World.run_bind_ok checked, World.run_pure]

/-- With no failing call, a run on a legible table gets past its preparation when nothing stands in
    its way. -/
theorem prepare_succeeds {r : Runner} {o : RunOptions} {w : World} {migrations : List Migration}
    (listed : r.source.list = .ok migrations)
    (trackable : w.database.CanTrack r.tracker.table)
    (legible : Legible (w.database.trackingRows r.tracker.table))
    (cleared : Cleared o (w.database.trackingRows r.tracker.table) migrations)
    (calm : w.faults = []) :
    ∃ records w', w.run (r.prepare o) = (.ok (migrations, records), w') := by
  obtain ⟨records, decoded⟩ := legible.list_ok
  have passes := check_succeeds (Tracker.recorded_of_list decoded) legible cleared
  exact ⟨records, Prepared.succeeds ⟨listed, decoded, passes⟩ trackable calm⟩

end Runner

end SchemaMigration
