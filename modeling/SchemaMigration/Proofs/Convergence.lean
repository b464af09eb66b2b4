import SchemaMigration.Proofs.Retrying
import SchemaMigration.Proofs.Surveying

/-! # Recovery by retrying

After a run has failed, its failed migration is retried until that succeeds, and then there is another
run, and so on until a run succeeds. In between the definitions may be edited. Whatever fails and however
often, this comes to what a single run would have come to in which nothing fails: each operation leaves a
table that the run would have passed through, or such a table with one failed row. `Converging` is the
invariant that says so.
-/

namespace SchemaMigration

open World

/-- What is to be done next in a recovery, or how it ended. -/
inductive RecoveryPhase where
  | ready
  | retrying (id : MigrationId)
  | finished (report : RunReport)
  /-- An operation ended with an error that is not about an execution. -/
  | stopped (e : EngineError)
  deriving DecidableEq

namespace RecoveryPhase

def afterRun : Except EngineError RunReport → RecoveryPhase
  | .ok report => finished report
  | .error (.execution failure) => retrying failure.id
  | .error e => stopped e

def afterRetry (id : MigrationId) : Except EngineError Unit → RecoveryPhase
  | .ok () => ready
  | .error (.execution _) => retrying id
  | .error e => stopped e

end RecoveryPhase

/-- The migrations of a source that were executed among events with success. -/
def Source.succeeded (s : Source) (es : List Event) : List Migration :=
  match s.list with
  | .ok migrations =>
    migrations.filter fun m => (executionsIn es).any fun x => x.id = m.id && x.outcome.toBool
  | .error _ => []

/-- A recovery under way. -/
structure Recovery where
  phase : RecoveryPhase
  world : World
  /-- The migrations that succeeded, as they were defined by then. -/
  inForce : List Migration

namespace Recovery

def start (w : World) : Recovery := ⟨.ready, w, []⟩

def advance (c : Recovery) (s : Source) (phase : RecoveryPhase) (w : World) : Recovery :=
  ⟨phase, w, c.inForce ++ s.succeeded (w.events.drop c.world.events.length)⟩

/-- The next operation, with the source as it is by then. -/
def step (t : Tracker) (c : Recovery) (s : Source) : Recovery :=
  match c.phase with
  | .ready =>
    let (result, w) := c.world.run (Runner.run ⟨s, t⟩ {})
    c.advance s (.afterRun result) w
  | .retrying id =>
    let (result, w) := c.world.run (Runner.retry ⟨s, t⟩ id.text)
    c.advance s (.afterRetry id result) w
  | .finished _ | .stopped _ => c

end Recovery

/-- A source has migrations with the given ids, whatever their definitions, and none of them writes the
    tracking table. -/
structure Source.Offers (s : Source) (name : TableName) (ids : List MigrationId)
    (migrations : List Migration) : Prop where
  listed : s.list = .ok migrations
  same_ids : idsOf migrations = ids
  alone : s.LeavesAlone name

namespace Source.Offers

variable {s : Source} {name : TableName} {ids : List MigrationId} {migrations : List Migration}
variable (offers : s.Offers name ids migrations)
include offers

theorem ascending : ids.Pairwise (· < ·) := by
  rw [← offers.same_ids]
  exact List.pairwise_map.mpr (Source.list_ascending offers.listed)

theorem distinct : ids.Nodup := by
  rw [← offers.same_ids]
  exact (Source.list_ascending offers.listed).distinct

end Source.Offers

/-- A world in which a run has nothing in its way: no call fails, and the table is there or can be made,
    its rows are records, and none of them is failed or in progress. -/
structure Recoverable (t : Tracker) (w : World) : Prop where
  calm : w.faults = []
  makeable : w.database.CanMake t.table
  reserved : w.database.Reserved t.table
  decodes : ∀ row ∈ w.database.trackingRows t.table, ∃ r, row.decode = .ok r
  clean : ∀ row ∈ w.database.trackingRows t.table, row.state.isDirty = false

def pendingIds (rows : List TrackingRow) (ids : List MigrationId) : List MigrationId :=
  ids.filter fun id => !rows.any (·.hasId id.text)

theorem idsOf_rowless (rows : List TrackingRow) (migrations : List Migration) :
    idsOf (rowless rows migrations) = pendingIds rows (idsOf migrations) := by
  rw [pendingIds, idsOf, idsOf, List.filter_map, rowless]
  rfl

/-- The row of a migration that was applied at some time. -/
def Migration.IsLeftAs (m : Migration) (row : TrackingRow) : Prop :=
  ∃ start finish, row = appliedRow m start finish

theorem filter_rest {α κ : Type} [DecidableEq κ] {key : α → κ} {front rest : List α}
    (distinct : ((front ++ rest).map key).Nodup) :
    (front ++ rest).filter (fun a => !decide (key a ∈ front.map key)) = rest := by
  rw [List.map_append, List.nodup_append] at distinct
  have gone : front.filter (fun a => !decide (key a ∈ front.map key)) = [] :=
    List.filter_eq_nil_iff.mpr fun a inside => by simp [List.mem_map_of_mem inside]
  have kept : rest.filter (fun a => !decide (key a ∈ front.map key)) = rest := by
    refine List.filter_eq_self.mpr fun a inside => ?_
    rw [Bool.not_eq_true', decide_eq_false_iff_not]
    exact fun among => distinct.2.2 _ among _ (List.mem_map_of_mem inside) rfl
  rw [List.filter_append, gone, kept, List.nil_append]

section
variable {done : List Migration} {new : List TrackingRow}

theorem isLeftAs_appliedRows (clock : Nat → Time.Reading) (n : Nat) (todo : List Migration) :
    List.Forall₂ Migration.IsLeftAs todo (appliedRows clock n todo) := by
  induction todo generalizing n with
  | nil => exact .nil
  | cons m rest ih => exact .cons ⟨_, _, rfl⟩ (ih (n + 2))

theorem Migration.IsLeftAs.decodes {m : Migration} {row : TrackingRow} (h : m.IsLeftAs row) :
    ∃ r, row.decode = .ok r := by
  obtain ⟨start, finish, rfl⟩ := h
  exact ⟨_, Stage.decode_row m.id (.completed start finish (some m.checksum))⟩

theorem Migration.IsLeftAs.clean {m : Migration} {row : TrackingRow} (h : m.IsLeftAs row) :
    row.state.isDirty = false := by
  obtain ⟨start, finish, rfl⟩ := h
  rfl

variable (left : List.Forall₂ Migration.IsLeftAs done new)
include left

theorem isLeftAs_of_mem {row : TrackingRow} (inside : row ∈ new) :
    ∃ m ∈ done, m.IsLeftAs row := by
  induction left with
  | nil => cases inside
  | @cons m first done rest own _ ih =>
      rcases List.mem_cons.mp inside with rfl | later
      · exact ⟨m, List.mem_cons_self, own⟩
      · obtain ⟨other, among, holds⟩ := ih later
        exact ⟨other, List.mem_cons_of_mem m among, holds⟩

theorem any_hasId_of_left (id : MigrationId) :
    new.any (·.hasId id.text) = decide (id ∈ idsOf done) := by
  induction left with
  | nil => rfl
  | @cons m row done new own _ ih =>
      obtain ⟨start, finish, rfl⟩ := own
      have own : (appliedRow m start finish).hasId id.text = decide (id = m.id) := by
        by_cases same : id = m.id
        · rw [same, decide_eq_true rfl]
          exact TrackingRow.hasId_iff.mpr rfl
        · rw [hasId_of_ne same rfl, decide_eq_false same]
      rw [List.any_cons, ih, own, Bool.eq_iff_iff]
      simp [idsOf]

theorem pendingIds_append {rows : List TrackingRow} {ids rest : List MigrationId}
    (distinct : ids.Nodup) (parts : pendingIds rows ids = idsOf done ++ rest) :
    pendingIds (rows ++ new) ids = rest := by
  have pending : ((idsOf done ++ rest).map id).Nodup := by
    rw [List.map_id, ← parts]
    exact distinct.filter _
  have again : pendingIds (rows ++ new) ids =
      (pendingIds rows ids).filter fun id => !decide (id ∈ idsOf done) := by
    simp only [pendingIds, List.any_append, any_hasId_of_left left, Bool.not_or, List.filter_filter,
      Bool.and_comm]
  have remains := filter_rest pending
  rw [List.map_id] at remains
  rw [again, parts]
  exact remains

end

theorem Source.succeeded_eq {s : Source} {es : List Event} {migrations done : List Migration}
    (listed : s.list = .ok migrations) (part : done.Sublist migrations)
    (told : (executionsIn es).filter (·.outcome.toBool) = done.map (·.forward (.ok ()))) :
    s.succeeded es = done := by
  have known (m : Migration) :
      ((executionsIn es).any fun x => x.id = m.id && x.outcome.toBool) = decide (m.id ∈ idsOf done) := by
    have among : ((executionsIn es).any fun x => x.id = m.id && x.outcome.toBool) =
        ((executionsIn es).filter (·.outcome.toBool)).any fun x => x.id = m.id := by
      simp only [List.any_filter, Bool.and_comm]
    rw [among, told, List.any_map, Bool.eq_iff_iff, List.any_eq_true, decide_eq_true_iff, idsOf,
      List.mem_map]
    simp [Migration.forward]
  rw [succeeded, listed]
  simp only [known]
  exact filter_ids part (Source.list_ascending listed).distinct

namespace Recoverable

variable {t : Tracker} {w : World} {s : Source} {ids : List MigrationId}
variable {migrations : List Migration} (h : Recoverable t w)
include h

theorem prospect (listed : s.list = .ok migrations) :
    ∃ records, Runner.prospect ⟨s, t⟩ {} w.database = .ok (migrations, records) := by
  obtain ⟨records, decoded⟩ : ∃ records, ((w.database.trackingRows t.table).mergeSort
      TrackingRow.idNotAfter).mapM Tracker.decodeRow = .ok records :=
    Tracker.decoded_of_decodes fun row inside => h.decodes row (List.mem_mergeSort.mp inside)
  have read := h.reserved.knownIn_eq.trans decoded
  have recorded := Tracker.recorded_of_list decoded
  have clean : ∀ r ∈ records, r.state.isDirty = false := by
    intro r inside
    obtain ⟨row, present, holds⟩ := recorded.of_record r inside
    rw [← holds.state_eq]
    exact h.clean row present
  refine ⟨records, Runner.prospect_eq_ok.mpr ⟨listed, read, ?_⟩⟩
  simp only [Runner.objection?, Option.or_eq_none_iff]
  exact ⟨Runner.dirtyObjection?_eq_none.mpr (.inr clean), rfl, rfl⟩

theorem run_ends (offers : s.Offers t.table ids migrations) :
    ∃ records result new n es constrained w', w.run (Runner.run ⟨s, t⟩ {}) = (result, w') ∧
      Undisturbed w.clock w.readings migrations records
        (rowless (w.database.trackingRows t.table) migrations) result new (executionsIn es) ∧
      w'.database.Stores t.table ⟨constrained, w.database.trackingRows t.table ++ new⟩ ∧
      w.LeadsTo n es w' := by
  obtain ⟨records, foreseen⟩ := h.prospect offers.listed
  have prepares := (Runner.prepare_foretold (r := ⟨s, t⟩) {} h.makeable h.calm).trans foreseen
  obtain ⟨-, result, new, n, es, constrained, w', runs, course, stored, leads, -⟩ :=
    run_undisturbed rfl offers.alone h.calm prepares
  rw [Runner.selection_eq offers.listed] at course
  exact ⟨records, result, new, n, es, constrained, w', runs, course, stored, leads⟩

section
variable {done : List Migration} {new : List TrackingRow}
variable (left : List.Forall₂ Migration.IsLeftAs done new)
include left

theorem clean_append :
    ∀ row ∈ w.database.trackingRows t.table ++ new, row.state.isDirty = false := by
  intro row inside
  rcases List.mem_append.mp inside with old | added
  · exact h.clean row old
  · obtain ⟨m, -, own⟩ := isLeftAs_of_mem left added
    exact own.clean

theorem extend {w' : World} {constrained : Bool} (calm : w'.faults = [])
    (stored : w'.database.Stores t.table ⟨constrained, w.database.trackingRows t.table ++ new⟩) :
    Recoverable t w' := by
  refine ⟨calm, stored.canMake, .inr ⟨_, stored⟩, ?_, ?_⟩
  · rw [stored.trackingRows_eq]
    intro row inside
    rcases List.mem_append.mp inside with old | added
    · exact h.decodes row old
    · obtain ⟨m, -, own⟩ := isLeftAs_of_mem left added
      exact own.decodes
  · rw [stored.trackingRows_eq]
    exact h.clean_append left

end

end Recoverable

/-- How a recovery stands after some migrations have succeeded and left new rows: the ones that are
    still pending come after them, and while there is a failed row, it is the last one. -/
inductive Stands (t : Tracker) (w : World) (ids : List MigrationId) (done : List Migration)
    (new : List TrackingRow) (w' : World) : RecoveryPhase → Prop where
  | ready (rest : List MigrationId)
      (parts : pendingIds (w.database.trackingRows t.table) ids = idsOf done ++ rest)
      (recoverable : Recoverable t w')
      (rows : w'.database.trackingRows t.table = w.database.trackingRows t.table ++ new) :
      Stands t w ids done new w' .ready
  | retrying (id : MigrationId) (rest : List MigrationId) (start finish : Time.Reading)
      (reason : String) (constrained : Bool)
      (parts : pendingIds (w.database.trackingRows t.table) ids = idsOf done ++ id :: rest)
      (calm : w'.faults = [])
      (stored : w'.database.Stores t.table
        ⟨constrained, w.database.trackingRows t.table ++ new ++ [failedRow id start finish reason]⟩) :
      Stands t w ids done new w' (.retrying id)
  | finished (report : RunReport)
      (parts : pendingIds (w.database.trackingRows t.table) ids = idsOf done)
      (recoverable : Recoverable t w')
      (rows : w'.database.trackingRows t.table = w.database.trackingRows t.table ++ new) :
      Stands t w ids done new w' (.finished report)

theorem Stands.isPrefix {t : Tracker} {w w' : World} {ids : List MigrationId} {done : List Migration}
    {new : List TrackingRow} {phase : RecoveryPhase} (h : Stands t w ids done new w' phase) :
    idsOf done <+: pendingIds (w.database.trackingRows t.table) ids := by
  cases h with
  | ready rest parts => exact ⟨rest, parts.symm⟩
  | retrying id rest start finish reason constrained parts => exact ⟨id :: rest, parts.symm⟩
  | finished report parts => exact ⟨[], (List.append_nil _).trans parts.symm⟩

/-- A retry has executed one migration, and has put another row in the place of its failed one. The
    failed row was the last one, and the rows before it are neither failed nor in progress. -/
structure RetriesLast (name : TableName) (id : MigrationId) (w w' : World)
    (before : List TrackingRow) (failed row : TrackingRow) (es : List Event) : Prop where
  stood : w.database.trackingRows name = before ++ [failed]
  clean : ∀ old ∈ before, old.state.isDirty = false
  isFailed : failed.isAt id.text failedStatus = true
  replaced : w'.database.trackingRows name = before ++ [row]
  own : row.id = some id.text
  events : w'.events = w.events ++ es
  executed : (executionsIn es).map Execution.id = [id]

/-- A recovery that began in a world has come to what it has by migrations that succeeded once each.
    `Stands` tells how the rows stand by then. -/
structure Converging (t : Tracker) (w : World) (ids : List MigrationId) (c : Recovery) : Prop where
  told : ∃ es, c.world.events = w.events ++ es ∧
    (executionsIn es).filter (·.outcome.toBool) = c.inForce.map (·.forward (.ok ()))
  stands : ∃ new, List.Forall₂ Migration.IsLeftAs c.inForce new ∧
    Stands t w ids c.inForce new c.world c.phase

theorem filter_succeeded (done : List Migration) :
    (done.map (·.forward (.ok ()))).filter (·.outcome.toBool) = done.map (·.forward (.ok ())) :=
  List.filter_eq_self.mpr fun x inside => by
    obtain ⟨m, -, rfl⟩ := List.mem_map.mp inside
    rfl

namespace Converging

variable {t : Tracker} {w : World} {ids : List MigrationId} {c : Recovery} {s : Source}
variable {migrations : List Migration}

theorem start (base : Recoverable t w) : Converging t w ids (.start w) where
  told := ⟨[], (List.append_nil _).symm, rfl⟩
  stands := ⟨[], .nil, .ready _ rfl base (List.append_nil _).symm⟩

variable (h : Converging t w ids c)
include h

theorem advance {done : List Migration} {new : List TrackingRow} {phase : RecoveryPhase} {n : Nat}
    {es : List Event} {w' : World} (listed : s.list = .ok migrations)
    (part : done.Sublist migrations) (leads : c.world.LeadsTo n es w')
    (succeeded : (executionsIn es).filter (·.outcome.toBool) = done.map (·.forward (.ok ())))
    (left : List.Forall₂ Migration.IsLeftAs (c.inForce ++ done) new)
    (stands : Stands t w ids (c.inForce ++ done) new w' phase) :
    Converging t w ids (c.advance s phase w') := by
  have inForce : (c.advance s phase w').inForce = c.inForce ++ done := by
    rw [Recovery.advance, leads.events, List.drop_left]
    exact congrArg _ (Source.succeeded_eq listed part succeeded)
  constructor
  · obtain ⟨fs, events, before⟩ := h.told
    refine ⟨fs ++ es, ?_, ?_⟩
    · exact leads.events.trans (by rw [events, List.append_assoc])
    · rw [inForce, executionsIn_append, List.filter_append, before, succeeded, List.map_append]
  · rw [inForce]
    exact ⟨new, left, stands⟩

/-- A run goes through, or as far as the first migration that fails. -/
theorem run (ready : c.phase = .ready) (offers : s.Offers t.table ids migrations) :
    Converging t w ids (c.step t s) := by
  obtain ⟨new, left, stands⟩ := h.stands
  rw [ready] at stands
  cases stands with
  | ready rest parts recoverable rows =>
  obtain ⟨records, result, added, n, es, constrained, w', runs, course, stored, leads⟩ :=
    recoverable.run_ends offers
  have todo : idsOf (rowless (c.world.database.trackingRows t.table) migrations) = rest := by
    rw [idsOf_rowless, offers.same_ids, rows, pendingIds_append left offers.distinct parts]
  have moves : c.step t s = c.advance s (.afterRun result) w' := by
    simp only [Recovery.step, ready, runs]
  rw [moves]
  have part : (rowless (c.world.database.trackingRows t.table) migrations).Sublist migrations :=
    List.filter_sublist
  generalize told : executionsIn es = exs at course
  generalize rowless (c.world.database.trackingRows t.table) migrations = selected at *
  cases course with
  | whole =>
      have succeeded : (executionsIn es).filter (·.outcome.toBool) =
          selected.map (·.forward (.ok ())) := by
        rw [told, filter_succeeded]
      have recoverable' := recoverable.extend (isLeftAs_appliedRows _ _ selected)
        (leads.faults recoverable.calm) stored
      refine h.advance offers.listed part leads succeeded
        (List.rel_append left (isLeftAs_appliedRows c.world.clock c.world.readings selected))
        (.finished _ ?_ recoverable' ?_)
      · rw [parts, ← todo, idsOf, idsOf, idsOf, List.map_append]
      · rw [stored.trackingRows_eq, rows, List.append_assoc]
  | halted before m after e pieces =>
      subst pieces
      have succeeded : (executionsIn es).filter (·.outcome.toBool) =
          before.map (·.forward (.ok ())) := by
        rw [told, List.filter_append, filter_succeeded]
        exact List.append_nil _
      rw [rows, ← List.append_assoc, List.append_assoc (w.database.trackingRows t.table)] at stored
      refine h.advance offers.listed ((List.sublist_append_left _ _).trans part) leads succeeded
        (List.rel_append left (isLeftAs_appliedRows c.world.clock c.world.readings before))
        (.retrying m.id (idsOf after) _ _ _ constrained ?_ (leads.faults recoverable.calm) stored)
      rw [parts, ← todo]
      simp only [idsOf, List.map_append, List.map_cons, List.append_assoc]

/-- Once all that was pending has succeeded, the next run goes through and has nothing to do. -/
theorem finishes (ready : c.phase = .ready) (offers : s.Offers t.table ids migrations)
    (whole : idsOf c.inForce = pendingIds (w.database.trackingRows t.table) ids) :
    ∃ report, (c.step t s).phase = .finished report ∧ (c.step t s).inForce = c.inForce := by
  obtain ⟨new, left, stands⟩ := (h.run ready offers).stands
  have after : ∃ result more, (c.step t s).phase = .afterRun result ∧
      (c.step t s).inForce = c.inForce ++ more := by
    simp only [Recovery.step, ready, Recovery.advance]
    exact ⟨_, _, rfl, rfl⟩
  obtain ⟨result, more, phase, inForce⟩ := after
  rw [phase, inForce] at stands
  rw [phase, inForce]
  cases result with
  | ok report =>
      cases stands with
      | finished _ parts =>
      have lengths := congrArg List.length (whole.trans parts)
      simp only [idsOf, List.length_append, List.length_map, Nat.left_eq_add] at lengths
      exact ⟨report, rfl, by rw [List.eq_nil_of_length_eq_zero lengths, List.append_nil]⟩
  | error e =>
      cases e with
      | execution failure =>
          cases stands with
          | retrying id rest start finish reason constrained parts =>
          have lengths := congrArg List.length parts
          rw [← whole] at lengths
          simp only [idsOf, List.length_append, List.length_map, List.length_cons] at lengths
          omega
      | discovery | dirtyState | notFound | invalidState | checksumMismatch | irreversible
      | confirmationRequired | config | corruptRecord | database => cases stands

/-- A retry leads the failed row at the end to where a run would have led it, and nothing else. -/
theorem retry {id : MigrationId} (base : Recoverable t w) (retrying : c.phase = .retrying id)
    (offers : s.Offers t.table ids migrations) :
    Converging t w ids (c.step t s) ∧
      ∃ before failed row es, RetriesLast t.table id c.world (c.step t s).world before failed row es := by
  obtain ⟨new, left, stands⟩ := h.stands
  rw [retrying] at stands
  cases stands with
  | retrying _ rest start finish reason constrained parts calm stored =>
  have still : id ∈ pendingIds (w.database.trackingRows t.table ++ new) ids := by
    rw [pendingIds_append left offers.distinct parts]
    exact List.mem_cons_self
  obtain ⟨known, rowless⟩ := List.mem_filter.mp still
  have absent : (w.database.trackingRows t.table ++ new).find? (·.hasId id.text) = none := by
    rw [Bool.not_eq_true', List.any_eq_false] at rowless
    exact List.find?_eq_none.mpr rowless
  obtain ⟨m, inside, rfl, result, row, outcome, now, now', n, es, w', runs, ends, stored', leads,
    executed⟩ := retry_ends calm offers.alone offers.listed (offers.same_ids ▸ known) absent stored
  have moves : c.step t s = c.advance s (.afterRetry m.id result) w' := by
    simp only [Recovery.step, retrying, runs]
  have calm' : w'.faults = [] := leads.faults calm
  rw [moves]
  refine ⟨?_, _, _, row, es, ⟨stored.trackingRows_eq, base.clean_append left,
    TrackingRow.isAt_iff.mpr ⟨rfl, rfl⟩, stored'.trackingRows_eq, ?_, leads.events, ?_⟩⟩
  · cases ends with
    | applied =>
        have added := List.rel_append left (.cons ⟨now, now', rfl⟩ .nil :
          List.Forall₂ Migration.IsLeftAs [m] [appliedRow m now now'])
        rw [List.append_assoc] at stored'
        refine h.advance offers.listed (List.singleton_sublist.mpr inside) leads ?_ added
          (.ready rest ?_ (base.extend added calm' stored') stored'.trackingRows_eq)
        · rw [executed]
          rfl
        · rw [parts, idsOf, idsOf, List.map_append, List.append_assoc]
          rfl
    | failed e =>
        refine h.advance offers.listed (List.nil_sublist _) leads ?_ ?_
          (.retrying m.id rest now now' e.message constrained ?_ calm' stored')
        · rw [executed]
          rfl
        · rwa [List.append_nil]
        · rwa [List.append_nil]
    | unrecorded outcome e struck => exact struck.elim
  · cases ends with
    | applied => rfl
    | failed e => rfl
    | unrecorded outcome e struck => exact struck.elim
  · rw [executed]
    rfl

theorem step (base : Recoverable t w) (offers : s.Offers t.table ids migrations) :
    Converging t w ids (c.step t s) := by
  cases phase : c.phase with
  | ready => exact h.run phase offers
  | retrying id => exact (h.retry base phase offers).1
  | finished report | stopped e =>
      have stays : c.step t s = c := by simp only [Recovery.step, phase]
      rwa [stays]

/-- What `advance` keeps, a recovery keeps. -/
theorem steps (base : Recoverable t w) (sources : List Source)
    (offered : ∀ s ∈ sources, ∃ migrations, s.Offers t.table ids migrations) :
    Converging t w ids (sources.foldl (Recovery.step t) c) := by
  induction sources generalizing c with
  | nil => exact h
  | cons s rest ih =>
      obtain ⟨migrations, offers⟩ := offered s List.mem_cons_self
      exact ih (h.step base offers) fun other inside => offered other (List.mem_cons_of_mem s inside)

end Converging

/-- A row apart from its times. -/
def TrackingRow.timeless (row : TrackingRow) : TrackingRow :=
  { row with
    startedAt := row.startedAt.map fun _ => .ofReading (.ofMicros 0)
    finishedAt := row.finishedAt.map fun _ => .ofReading (.ofMicros 0) }

theorem timeless_of_left {done done' : List Migration} {new new' : List TrackingRow}
    (left : List.Forall₂ Migration.IsLeftAs done new)
    (left' : List.Forall₂ Migration.IsLeftAs done' new')
    (same : done.map (fun m => (m.id, m.checksum)) = done'.map (fun m => (m.id, m.checksum))) :
    new.map TrackingRow.timeless = new'.map TrackingRow.timeless := by
  induction left generalizing done' new' with
  | nil =>
      obtain rfl : done' = [] := List.map_eq_nil_iff.mp same.symm
      obtain rfl := List.forall₂_nil_left_iff.mp left'
      rfl
  | @cons m row done new own _ ih =>
      cases left' with
      | nil => cases same
      | @cons m' row' done' new' own' rest' =>
          obtain ⟨start, finish, rfl⟩ := own
          obtain ⟨start', finish', rfl⟩ := own'
          rw [List.map_cons, List.map_cons, List.cons.injEq, Prod.mk.injEq] at same
          obtain ⟨⟨id, checksum⟩, others⟩ := same
          rw [List.map_cons, List.map_cons, ih rest' others]
          congr 1
          simp only [TrackingRow.timeless, appliedRow, startedRow, Move.row, TrackingRow.blank, id,
            checksum, Option.map_some]

theorem Recoverable.stateIn_eq_completed {t : Tracker} {w : World} (h : Recoverable t w)
    {id : MigrationId}
    (present : (w.database.trackingRows t.table).any (·.hasId id.text) = true) :
    stateIn (w.database.trackingRows t.table) id = .completed := by
  obtain ⟨other, among, own⟩ := List.any_eq_true.mp present
  obtain ⟨row, found⟩ : ∃ row, (w.database.trackingRows t.table).find? (·.hasId id.text) = some row :=
    Option.isSome_iff_exists.mp (List.find?_isSome.mpr ⟨other, among, own⟩)
  have inside := List.mem_of_find?_eq_some found
  obtain ⟨r, decodes⟩ := h.decodes row inside
  have begun := (TrackingRow.holds_of_decode decodes).state_ne_pending
  have clean := h.clean row inside
  rw [stateIn, found]
  dsimp only
  cases state : row.state with
  | completed => rfl
  | pending => exact (begun state).elim
  | inProgress | failed =>
      rw [state] at clean
      cases clean

theorem Recoverable.timeless_run {t : Tracker} {w w' : World} {s : Source} {ids : List MigrationId}
    {migrations done : List Migration} {new : List TrackingRow} {report : RunReport}
    (h : Recoverable t w) (offers : s.Offers t.table ids migrations)
    (left : List.Forall₂ Migration.IsLeftAs done new)
    (same : (rowless (w.database.trackingRows t.table) migrations).map (fun m => (m.id, m.checksum)) =
      done.map fun m => (m.id, m.checksum))
    (ran : w.run (Runner.run ⟨s, t⟩ {}) = (.ok report, w')) :
    (w'.database.trackingRows t.table).map TrackingRow.timeless =
      (w.database.trackingRows t.table ++ new).map TrackingRow.timeless := by
  obtain ⟨records, result, added, n, es, constrained, w₁, runs, course, stored, -⟩ :=
    h.run_ends offers
  obtain ⟨rfl, rfl⟩ := Prod.mk.inj (runs.symm.trans ran)
  rw [stored.trackingRows_eq, List.map_append, List.map_append]
  congr 1
  generalize succeeds : Except.ok report = result at course
  generalize executionsIn es = exs at course
  cases course with
  | whole => exact timeless_of_left (isLeftAs_appliedRows _ _ _) left same
  | halted => cases succeeds

/-- What a recovery comes to once a run goes through, from a world that it started in. -/
structure Recovery.Recovers (t : Tracker) (w : World) (ids : List MigrationId) (c : Recovery) :
    Prop where
  all : idsOf c.inForce = pendingIds (w.database.trackingRows t.table) ids
  added : ∃ new, c.world.database.trackingRows t.table = w.database.trackingRows t.table ++ new ∧
    List.Forall₂ Migration.IsLeftAs c.inForce new
  cleared : ∀ row ∈ c.world.database.trackingRows t.table, row.failureReason.isSome = true →
    row ∈ w.database.trackingRows t.table
  completed : ∀ id ∈ ids, stateIn (c.world.database.trackingRows t.table) id = .completed
  /-- The table is, apart from times, as a single run leaves it that goes through with the definitions
  that were in force when each migration succeeded. -/
  alike : ∀ s migrations report w', s.Offers t.table ids migrations →
    (rowless (w.database.trackingRows t.table) migrations).map (fun m => (m.id, m.checksum)) =
      c.inForce.map (fun m => (m.id, m.checksum)) →
    w.run (Runner.run ⟨s, t⟩ {}) = (.ok report, w') →
    (w'.database.trackingRows t.table).map TrackingRow.timeless =
      (c.world.database.trackingRows t.table).map TrackingRow.timeless

/-- However often runs and retries fail in a recovery, and however the definitions are edited on the way,
    no operation is refused. Each migration succeeds once, in ascending order, and a retry changes
    nothing but the one failed row (`RetriesLast`). Once a run goes through, every migration is
    completed, and apart from times the table is the one that a single run would have left with the
    definitions that were in force when each migration succeeded (`Recovers`). -/
theorem recovery_converges (t : Tracker) (w : World) (ids : List MigrationId) (sources : List Source)
    (recoverable : Recoverable t w)
    (offered : ∀ s ∈ sources, ∃ migrations, s.Offers t.table ids migrations) :
    let c := sources.foldl (Recovery.step t) (.start w)
    (∀ e, c.phase ≠ .stopped e) ∧
    (∃ es, c.world.events = w.events ++ es ∧
      (executionsIn es).filter (·.outcome.toBool) = c.inForce.map (·.forward (.ok ()))) ∧
    Ascending c.inForce ∧ idsOf c.inForce <+: pendingIds (w.database.trackingRows t.table) ids ∧
    (∀ id, c.phase = .retrying id → ∀ s migrations, s.Offers t.table ids migrations →
      ∃ before failed row es,
        RetriesLast t.table id c.world (c.step t s).world before failed row es) ∧
    ∀ report, c.phase = .finished report → c.Recovers t w ids := by
  intro c
  have converging : Converging t w ids c := (Converging.start recoverable).steps recoverable sources offered
  obtain ⟨new, left, stands⟩ := converging.stands
  have part := stands.isPrefix
  have ascending : Ascending c.inForce := by
    cases sources with
    | nil => exact .nil
    | cons s rest =>
        obtain ⟨migrations, offers⟩ := offered s List.mem_cons_self
        exact List.pairwise_map.mp ((offers.ascending.filter _).sublist part.sublist)
  refine ⟨?_, converging.told, ascending, part, ?_, ?_⟩
  · intro e stopped
    rw [stopped] at stands
    cases stands
  · intro id retrying s migrations offers
    exact (converging.retry recoverable retrying offers).2
  · intro report finished
    rw [finished] at stands
    cases stands with
    | finished _ parts recoverable' kept =>
    have kept : c.world.database.trackingRows t.table = w.database.trackingRows t.table ++ new := kept
    have distinct : ids.Nodup := by
      cases sources with
      | nil => cases finished
      | cons s rest =>
          obtain ⟨migrations, offers⟩ := offered s List.mem_cons_self
          exact offers.distinct
    refine ⟨parts.symm, ⟨new, kept, left⟩, ?_, ?_, ?_⟩
    · intro row inside reason
      rw [kept] at inside
      refine (List.mem_append.mp inside).resolve_right fun added => ?_
      obtain ⟨m, -, start, finish, rfl⟩ := isLeftAs_of_mem left added
      cases reason
    · intro id known
      have nothing : pendingIds (w.database.trackingRows t.table ++ new) ids = [] :=
        pendingIds_append left distinct (parts.trans (List.append_nil _).symm)
      have present := List.filter_eq_nil_iff.mp nothing id known
      rw [Bool.not_eq_true', Bool.not_eq_false, ← kept] at present
      exact recoverable'.stateIn_eq_completed present
    · intro s migrations report' w' offers same ran
      rw [kept]
      exact recoverable.timeless_run offers left same ran

/-- A migration fails in a run and in a retry, is edited, and succeeds in another retry. That comes to
    what a single run with the edited one comes to. -/
theorem recovery_converges_edited :
    let id : MigrationId := ⟨"001", by decide⟩
    let broken : Migration := ⟨id, none, .procedure "a" [.failed (.execution "no space")], none⟩
    let mended : Migration := ⟨id, none, .procedure "b" [], none⟩
    let t : Tracker := ⟨.standard⟩
    let w := World.ticking .empty
    let sources : List Source :=
      [.registry [broken], .registry [broken], .registry [mended], .registry [mended]]
    let c := sources.foldl (Recovery.step t) (.start w)
    let single := w.run (Runner.run ⟨.registry [mended], t⟩ {})
    (Recoverable t w ∧ ∀ s ∈ sources, ∃ migrations, s.Offers t.table [id] migrations) ∧
    (∃ report, c.phase = .finished report) ∧ c.inForce = [mended] ∧
    stateIn (c.world.database.trackingRows t.table) id = .completed ∧
    single.1 = .ok ⟨[id], [], [], [], 0, false⟩ ∧
    (single.2.database.trackingRows t.table).map TrackingRow.timeless =
      (c.world.database.trackingRows t.table).map TrackingRow.timeless := by
  intro id broken mended t w sources c single
  have recoverable : Recoverable t w :=
    ⟨rfl, .inr (.inr rfl), .inl rfl, fun _ inside => (List.not_mem_nil inside).elim,
      fun _ inside => (List.not_mem_nil inside).elim⟩
  have offers (m : Migration) (own : m.id = id) (silent : m.isSilent = true) :
      (Source.registry [m]).Offers t.table [id] [m] := by
    have listed : (Source.registry [m]).list = .ok [m] :=
      inOrder_of_ascending (List.pairwise_singleton _ m)
    exact ⟨listed, congrArg (fun id => [id]) own,
      Source.leavesAlone_silent listed (List.forall_mem_singleton.mpr silent) t.table⟩
  have offered : ∀ s ∈ sources, ∃ migrations, s.Offers t.table [id] migrations := by
    intro s inside
    simp only [sources, List.mem_cons, List.not_mem_nil, or_false] at inside
    obtain rfl | rfl | rfl | rfl := inside
    · exact ⟨_, offers broken rfl rfl⟩
    · exact ⟨_, offers broken rfl rfl⟩
    · exact ⟨_, offers mended rfl rfl⟩
    · exact ⟨_, offers mended rfl rfl⟩
  let retried := (sources.take 3).foldl (Recovery.step t) (.start w)
  have converging : Converging t w [id] retried := (Converging.start recoverable).steps recoverable
    (sources.take 3) fun s inside => offered s (List.mem_of_mem_take inside)
  have ready : retried.phase = .ready := by decide +kernel
  have succeeded : retried.inForce = [mended] := by decide +kernel
  have parts : sources = sources.take 3 ++ [.registry [mended]] := rfl
  have last : c = retried.step t (.registry [mended]) :=
    (congrArg (List.foldl (Recovery.step t) (.start w)) parts).trans (List.foldl_concat ..)
  have all : idsOf retried.inForce = [id] := congrArg idsOf succeeded
  obtain ⟨report, finished, inForce⟩ := converging.finishes ready (offers mended rfl rfl) all
  rw [← last] at finished inForce
  obtain ⟨-, -, -, -, -, whole⟩ := recovery_converges t w [id] sources recoverable offered
  have same : c = sources.foldl (Recovery.step t) (.start w) := rfl
  rw [← same] at whole
  obtain ⟨-, -, -, completed, alike⟩ := whole report finished
  have applied : single.1 = .ok ⟨[id], [], [], [], 0, false⟩ := by decide +kernel
  have in_force : c.inForce = [mended] := inForce.trans succeeded
  refine ⟨⟨recoverable, offered⟩, ⟨report, finished⟩, in_force, completed id List.mem_cons_self, applied,
    alike _ [mended] _ single.2 (offers mended rfl rfl) ?_ (Prod.ext applied rfl)⟩
  rw [in_force]
  rfl

end SchemaMigration
