import SchemaMigration.Proofs.Operations
import SchemaMigration.Proofs.Stages

/-! # The chronicle of a table

Every row of a tracking table can be told from the record of events: which statement made it what it is,
and when. The `Chronicle` is kept by everything that operations do, whatever fails on the way, and it
says in particular which event completed a migration last.
-/

namespace SchemaMigration

open World

def Change.time? : Change → Option Time.Reading
  | insertStarted _ now | insertCompleted _ now _ | complete _ now _ | fail _ now _ | restart _ now
  | settle _ now _ => some now
  | delete _ => none

def Change.completes (text : String) : Change → Bool
  | insertCompleted id _ _ | complete id _ _ | settle id _ _ => id = text
  | insertStarted .. | fail .. | restart .. | delete _ => false

/-- The statement of an event that changed rows of a tracking table, if it is such an event. -/
def Event.write? (t : Tracker) : Event → Option Change
  | .called (.change name statement) (.ok affected) =>
    let count : Nat := affected
    if name = t.table ∧ 0 < count then some statement else none
  | _ => none

/-- The times that events wrote into a tracking table, in order. -/
def writeTimes (t : Tracker) (es : List Event) : List Time.Reading :=
  es.filterMap fun e => (e.write? t).bind Change.time?

/-- The position of the last event that made a migration completed, as `Change.completes` tells. -/
def completionTime? (t : Tracker) (id : MigrationId) : List Event → Option Nat
  | [] => none
  | e :: rest =>
    match completionTime? t id rest with
    | some p => some (p + 1)
    | none => if (e.write? t).any (·.completes id.text) then some 0 else none

section
variable {t : Tracker} {id other : MigrationId} {es fs : List Event} {statement : Change}

theorem Change.about_of_completes {text : String} (h : statement.completes text = true) :
    statement.about = text := by
  cases statement <;> simp_all [completes, about]

@[simp] theorem write?_carriedOut (t : Tracker) (statement : Change) (n : Nat) :
    (t.carriedOut statement n).write? t = if 0 < n then some statement else none := by
  simp [Tracker.carriedOut, Event.write?]

@[simp] theorem writeTimes_append (t : Tracker) (es fs : List Event) :
    writeTimes t (es ++ fs) = writeTimes t es ++ writeTimes t fs :=
  List.filterMap_append

theorem writeTimes_quiet (quiet : ∀ e ∈ es, e.write? t = none) : writeTimes t es = [] := by
  apply List.filterMap_eq_nil_iff.mpr
  intro e inside
  rw [quiet e inside, Option.bind_none]

theorem completionTime?_append (other : ∀ e ∈ fs, (e.write? t).any (·.completes id.text) = false) :
    completionTime? t id (es ++ fs) = completionTime? t id es := by
  induction es with
  | nil =>
      rw [List.nil_append]
      induction fs with
      | nil => rfl
      | cons e rest ih =>
          simp only [completionTime?, ih fun f inside => other f (List.mem_cons_of_mem e inside),
            other e List.mem_cons_self, Bool.false_eq_true, if_false]
  | cons e rest ih => simp only [List.cons_append, completionTime?, ih]

theorem completionTime?_concat {e : Event} (h : (e.write? t).any (·.completes id.text) = true)
    (es : List Event) : completionTime? t id (es ++ [e]) = some es.length := by
  induction es with
  | nil => simp [completionTime?, h]
  | cons first rest ih => simp [completionTime?, ih]

end

/-- Events tell how a migration came to a stage: when it was begun, that it ended no earlier, and
    where it was completed last, if that is the stage. -/
structure Told (t : Tracker) (es : List Event) (id : MigrationId) (s : Stage) : Prop where
  started : s.start ∈ writeTimes t es
  inOrder : ∀ finish ∈ s.finish?, finish = s.start ∨ [s.start, finish].Sublist (writeTimes t es)
  completion : s.status = .completed → ∃ p e, completionTime? t id es = some p ∧ es[p]? = some e ∧
    (e.write? t).bind Change.time? = s.finish?

namespace Told

variable {t : Tracker} {id other : MigrationId} {es fs : List Event} {s : Stage}

theorem append (h : Told t es id s)
    (other : ∀ e ∈ fs, (e.write? t).any (·.completes id.text) = false) : Told t (es ++ fs) id s where
  started := by
    rw [writeTimes_append]
    exact List.mem_append_left _ h.started
  inOrder finish ends := by
    rw [writeTimes_append]
    exact (h.inOrder finish ends).imp_right fun order => order.trans (List.sublist_append_left _ _)
  completion completed := by
    obtain ⟨p, e, last, at_p, time⟩ := h.completion completed
    refine ⟨p, e, (completionTime?_append other).trans last, ?_, time⟩
    rw [List.getElem?_append_left (List.getElem?_eq_some_iff.mp at_p).1]
    exact at_p

theorem leads {old : Option Stage} {statement : Change} (h : ∀ s ∈ old, Told t es id s)
    (led : statement.Leads id old s) (n : Nat) :
    Told t (es ++ [t.carriedOut statement (n + 1)]) id s := by
  have write : (t.carriedOut statement (n + 1)).write? t = some statement := by simp
  have times : writeTimes t (es ++ [t.carriedOut statement (n + 1)]) =
      writeTimes t es ++ statement.time?.toList := by
    rw [writeTimes_append]
    cases time : statement.time? <;> simp [writeTimes, write, time]
  have later (start now : Time.Reading) (begun : start ∈ writeTimes t es) :
      [start, now].Sublist (writeTimes t es ++ [now]) :=
    (List.singleton_sublist.mpr begun).append (List.Sublist.refl [now])
  have here (completes : statement.completes id.text = true) :
      ∃ p e, completionTime? t id (es ++ [t.carriedOut statement (n + 1)]) = some p ∧
        (es ++ [t.carriedOut statement (n + 1)])[p]? = some e ∧
        (e.write? t).bind Change.time? = statement.time? := by
    refine ⟨es.length, _, completionTime?_concat ?_ es, List.getElem?_concat_length, ?_⟩
    · simp [write, completes]
    · rw [write, Option.bind_some]
  constructor
  · rw [times]
    cases led with
    | begin | mark | restart => simp [Stage.start, Change.time?]
    | complete | fail | settle => exact List.mem_append_left _ (h _ rfl).started
  · rw [times]
    cases led with
    | begin | restart => rintro finish ⟨⟩
    | mark now =>
        rintro finish ⟨⟩
        exact .inl rfl
    | complete start now | fail start now =>
        rintro finish ⟨⟩
        exact .inr (later start now (h _ rfl).started)
    | settle s now =>
        rintro finish ⟨⟩
        exact .inr (later s.start now (h _ rfl).started)
  · cases led with
    | begin | fail | restart => nofun
    | mark | complete | settle => exact fun _ => here (decide_eq_true rfl)

end Told

/-- No relation has a name but a tracking table. -/
def Database.Reserved (db : Database) (name : TableName) : Prop :=
  db.find? name.relation = none ∨ ∃ table, db.Stores name table

namespace Database.Reserved

variable {db db' : Database} {name : TableName}

theorem congr (h : db.Reserved name) (same : db'.find? name.relation = db.find? name.relation) :
    db'.Reserved name :=
  h.imp same.trans fun ⟨table, stored⟩ => ⟨table, same.trans stored⟩

theorem createTable (h : db.Reserved name) (other : TableName) :
    (db.answer (.createTable other)).2.Reserved name := by
  simp only [answer, createTracking]
  by_cases present : db.has other.relation = true
  · rwa [if_pos present]
  by_cases placed : db.hasSchema other.relation.schema = true
  · rw [if_neg present, if_pos placed]
    by_cases same : name.relation = other.relation
    · have absent : db.find? other.relation = none := by simpa [has] using present
      exact .inr ⟨.empty, by simp [Stores, find?_add, same, absent]⟩
    · exact h.congr (by simp [find?_add, same])
  · rwa [if_neg present, if_neg placed]

end Database.Reserved

def World.nextReadings (w : World) (n : Nat) : List Time.Reading :=
  (List.range' w.readings n).map w.clock

theorem World.LeadsTo.nextReadings {w w' : World} {m : Nat} {es : List Event}
    (leads : w.LeadsTo m es w') (n : Nat) :
    w.nextReadings (m + n) = w.nextReadings m ++ w'.nextReadings n := by
  simp only [World.nextReadings, leads.clock, leads.readings, ← List.map_append,
    List.range'_append_1]

/-- The rows of a table are told by the events since a world in which there were none, and the times
    in them are readings of the clock since then. -/
structure Chronicle (t : Tracker) (start w : World) : Prop where
  reserved : w.database.Reserved t.table
  unique : ((w.database.trackingRows t.table).map TrackingRow.id).Nodup
  told : ∃ n es, start.LeadsTo n es w ∧ (writeTimes t es).Sublist (start.nextReadings n) ∧
    Staged (Told t es) (w.database.trackingRows t.table)

namespace Chronicle

variable {t : Tracker} {start w w' w₁ : World} {m : Nat} {fs : List Event} {id : MigrationId}

/-- The chronicle goes on with events that tell the rows there are then. -/
theorem extend (h : Chronicle t start w) (leads : w.LeadsTo m fs w')
    (reserved : w'.database.Reserved t.table)
    (unique : ((w'.database.trackingRows t.table).map TrackingRow.id).Nodup)
    (times : (writeTimes t fs).Sublist (w.nextReadings m))
    (told : ∀ es, Staged (Told t es) (w.database.trackingRows t.table) →
      Staged (Told t (es ++ fs)) (w'.database.trackingRows t.table)) : Chronicle t start w' := by
  obtain ⟨n, es, so_far, earlier, staged⟩ := h.told
  refine ⟨reserved, unique, n + m, es ++ fs, so_far.trans leads, ?_, told es staged⟩
  rw [writeTimes_append, so_far.nextReadings]
  exact earlier.append times

theorem quiet (h : Chronicle t start w) (leads : w.LeadsTo m fs w')
    (silent : ∀ e ∈ fs, e.write? t = none) (reserved : w'.database.Reserved t.table)
    (rows : w'.database.trackingRows t.table = w.database.trackingRows t.table) :
    Chronicle t start w' := by
  apply h.extend leads reserved (rows ▸ h.unique)
  · rw [writeTimes_quiet silent]
    exact List.nil_sublist _
  · intro es staged
    rw [rows]
    refine staged.imp fun id s told => told.append fun e inside => ?_
    rw [silent e inside, Option.any_none]

/-- A statement that the tracking table has answered, with the time shown by the clock if it writes one.
    Where it adds a row, there must be none with its id. -/
theorem answered (h : Chronicle t start w) {table changed : TrackingTable} {statement : Change}
    {affected : Nat} (leads : w.LeadsTo m [.called (.change t.table statement) (.ok affected)] w')
    (stored : w.database.Stores t.table table) (stores : w'.database.Stores t.table changed)
    (applied : statement.apply table = .ok (changed, affected))
    (timed : ∀ now ∈ statement.time?, now ∈ w.nextReadings m) (about : statement.about = id.text)
    (fits : statement.inserts = true → ∀ row ∈ table.rows, row.id ≠ some id.text) :
    Chronicle t start w' := by
  have before := stored.trackingRows_eq
  have rows := stores.trackingRows_eq
  cases affected with
  | zero =>
      refine h.quiet leads (by simp [Event.write?]) (.inr ⟨changed, stores⟩) ?_
      rw [rows, before, Change.eq_of_unaffected applied]
  | succ n =>
      apply h.extend leads (.inr ⟨changed, stores⟩)
      · rw [rows]
        exact Change.unique_apply (before ▸ h.unique) (about ▸ fits) applied
      · cases time : statement.time? with
        | none => simp [writeTimes, Event.write?, time]
        | some now => simpa [writeTimes, Event.write?, time] using timed now time
      · intro es staged
        rw [before] at staged
        rw [rows]
        refine staged.change (before ▸ h.unique) about fits applied n.succ_pos
          (fun old s told led => Told.leads told led n) ?_
        -- What is told of another id goes on, since the statement completes no other.
        intro other s different told
        apply told.append
        rw [List.forall_mem_singleton]
        have unlike : statement.completes other.text = false := by
          rw [← Bool.not_eq_true]
          intro completes
          have text := about.symm.trans (Change.about_of_completes completes)
          exact different (MigrationId.ext_text text.symm)
        simp [Event.write?, unlike]

theorem change (h : Chronicle t start w) (leads : w.LeadsTo m [] w₁)
    (same : w₁.database = w.database) {statement : Change}
    (timed : ∀ now ∈ statement.time?, now ∈ w.nextReadings m) (about : statement.about = id.text)
    (fits : statement.inserts = true →
      ∀ row ∈ w.database.trackingRows t.table, row.id ≠ some id.text) :
    Chronicle t start (w₁.call (.change t.table statement)).2 := by
  -- A call that is struck or refused writes nothing.
  have unless_answered (w' : World) (e : DbError) (kept : w'.database = w.database)
      (leads' : w₁.LeadsTo 0 [.called (.change t.table statement) (.error e)] w') :
      Chronicle t start w' :=
    h.quiet (leads.trans leads') (List.forall_mem_singleton.mpr rfl) (h.reserved.congr (by rw [kept]))
      (by rw [kept])
  obtain ⟨e, w', called, kept, leads', -⟩ | ⟨w', called, database, leads'⟩ :=
    w₁.call_cases (.change t.table statement)
  · rw [called]
    exact unless_answered w' e (kept.trans same) leads'
  rw [called]
  rw [same] at database leads'
  rcases w.database.change_cases t.table statement with
    ⟨e, refused⟩ | ⟨table, changed, affected, stored, applied, answered⟩
  · rw [Database.answer, refused] at database leads'
    exact unless_answered w' e database leads'
  · rw [Database.answer, answered] at database leads'
    rw [stored.trackingRows_eq] at fits
    exact h.answered (leads.trans leads') stored (database ▸ stored.replaced changed) applied timed
      about fits

theorem respond_idle (h : Chronicle t start w) {r : Request} (idle : r.IsIdle) :
    Chronicle t start (respond r w).2 := by
  cases r with
  | note level text => exact h.quiet (w.leadsTo_record _) (by simp [Event.write?]) h.reserved rfl
  | readClock | perform => exact idle.elim
  | call c =>
      have silent (answer : Except DbError c.Result) :
          ∀ e ∈ [Event.called c answer], e.write? t = none := by
        rw [List.forall_mem_singleton]
        cases c with
        | change => exact idle.elim
        | _ => rfl
      change Chronicle t start (w.call c).2
      obtain ⟨e, w', called, kept, leads, -⟩ | ⟨w', called, database, leads⟩ := w.call_cases c
      · rw [called]
        exact h.quiet leads (silent _) (h.reserved.congr (by rw [kept])) (by rw [kept])
      rw [called]
      apply h.quiet leads (silent _)
      · rw [database]
        cases c with
        | relationExists | select => exact h.reserved
        | createSchema schema =>
            exact h.reserved.congr (w.database.find?_createSchema schema t.table.relation)
        | createTable other => exact h.reserved.createTable other
        | dropTable | change | batch => exact idle.elim
      · rw [database]
        cases c with
        | relationExists | select => rfl
        | createSchema schema =>
            exact Database.trackingRows_congr
              (w.database.find?_createSchema schema t.table.relation)
        | createTable other => exact w.database.trackingRows_createTable t.table other
        | dropTable | change | batch => exact idle.elim

theorem keeps_idle {α : Type} {x : Engine α} (asks : Engine.Asks Request.IsIdle x) :
    Keeps (Chronicle t start) x :=
  .of_asks (fun _ _ idle h => h.respond_idle idle) asks

theorem executed (h : Chronicle t start w) {a : Action} (alone : a.LeavesAlone t.table)
    (id : MigrationId) (d : Direction) {α : Type} (f : Except DbError Unit → Engine α) :
    ∃ outcome w', w.run (Engine.perform id d a >>= f) = w'.run (f outcome) ∧
      Chronicle t start w' := by
  obtain ⟨outcome, es, w', runs, same, leads, sent⟩ := alone.executed w id d f
  refine ⟨outcome, w', runs, h.quiet leads (fun e inside => ?_) (h.reserved.congr same)
    (Database.trackingRows_congr same)⟩
  rcases List.mem_append.mp inside with batch | last
  · have sends := sent e batch
    unfold Event.IsBatch at sends
    split at sends
    · rfl
    · exact sends.elim
  · rw [List.mem_singleton.mp last]
    rfl

theorem stamped (h : Chronicle t start w) (statement : Change)
    (timed : statement.time? = some (w.clock w.readings)) (about : statement.about = id.text)
    (fits : statement.inserts = true →
      ∀ row ∈ w.database.trackingRows t.table, row.id ≠ some id.text) :
    Chronicle t start
      (World.call { w with readings := w.readings + 1 } (.change t.table statement)).2 := by
  refine h.change w.leadsTo_now rfl (fun now same => ?_) about fits
  rw [timed] at same
  cases same
  simp [World.nextReadings]

theorem guarded (id : MigrationId) (operation : Transition) {statement : Time.Reading → Change}
    (timed : ∀ now, (statement now).time? = some now)
    (about : ∀ now, (statement now).about = id.text)
    (updates : ∀ now, (statement now).inserts = false) :
    Keeps (Chronicle t start) (t.guarded id operation statement) := by
  intro w h
  unfold Tracker.guarded
  rw [run_bind_ok w.run_now]
  apply after_bind
  · rw [run_call]
    exact h.stamped (statement (w.clock w.readings)) (timed _) (about _) fun adds => by
      simp [updates] at adds
  · intro affected w' _ h'
    apply keeps_idle _ w' h'
    unfold Tracker.expectTransition
    split
    · exact ((admitsMaking_idle t).state id.text).bind fun _ => Engine.asks_throw _
    · exact Engine.asks_pure ()

theorem forceComplete (id : MigrationId) (checksum : Option String) :
    Keeps (Chronicle t start) (t.forceComplete id checksum) := by
  intro w h
  unfold Tracker.forceComplete
  apply after_bind (keeps_idle ((admitsMaking_idle t).state id.text) w h)
  intro previous w' looked h'
  rw [run_bind_ok w'.run_now]
  cases previous with
  | pending =>
      apply after_bind
      · rw [run_discard, run_call]
        exact h'.stamped (.insertCompleted id.text (w'.clock w'.readings) checksum) rfl rfl
          fun _ => Tracker.absent_of_pending looked
      · exact fun _ _ _ h'' => h''
  | inProgress | completed | failed =>
      apply after_bind
      · rw [run_discard, run_call]
        exact h'.stamped (.settle id.text (w'.clock w'.readings) checksum) rfl rfl nofun
      · exact fun _ _ _ h'' => h''

theorem begin (id : MigrationId) : Keeps (Chronicle t start) (t.begin id) := by
  intro w h
  unfold Tracker.begin
  apply after_bind (keeps_idle ((admitsMaking_idle t).get? id.text) w h)
  intro record w' looked h'
  cases record with
  | some record => exact h'
  | none =>
      rw [run_bind_ok w'.run_now, run_discard, run_call]
      exact h'.stamped (.insertStarted id.text (w'.clock w'.readings)) rfl rfl
        fun _ => Tracker.absent_of_get? looked

theorem remove (id : MigrationId) : Keeps (Chronicle t start) (discard (t.remove id)) := by
  intro w h
  rw [t.run_remove]
  exact h.change (.refl w) rfl (fun _ same => by cases same) rfl nofun

theorem drop : Keeps (Chronicle t start) (Engine.call (.dropTable t.table)) := by
  intro w h
  rw [run_call]
  obtain ⟨e, w', called, kept, leads, -⟩ | ⟨w', called, database, leads⟩ :=
    w.call_cases (.dropTable t.table)
  · rw [called]
    exact h.quiet leads (by simp [Event.write?]) (h.reserved.congr (by rw [kept])) (by rw [kept])
  · rw [called]
    have gone : w'.database.find? t.table.relation = none := by
      rw [database]
      exact w.database.find?_drop t.table.relation
    have rows : w'.database.trackingRows t.table = [] := by
      simp only [Database.trackingRows, gone]
    refine h.extend leads (.inl gone) ?_ (by simp [writeTimes, Event.write?]) ?_
    · simp [rows]
    · simp [rows, Staged]

variable {m : Migration}

theorem applyForward (alone : m.up.LeavesAlone t.table) :
    Keeps (Chronicle t start) (Runner.applyForward t m) := by
  intro w h
  unfold Runner.applyForward
  obtain ⟨outcome, w', runs, h'⟩ := h.executed alone m.id .up _
  rw [runs]
  cases outcome with
  | ok =>
      exact ((guarded m.id .complete (fun _ => rfl) (fun _ => rfl) fun _ => rfl).bind
        fun _ _ _ _ => keeps_idle (Engine.asks_note trivial)) w' h'
  | error e =>
      exact ((guarded m.id .fail (fun _ => rfl) (fun _ => rfl) fun _ => rfl).bind
        fun _ _ _ _ => keeps_idle ((Engine.asks_note trivial).bind fun _ => Engine.asks_throw _)) w' h'

theorem applyOne (applied : List MigrationId) (alone : m.up.LeavesAlone t.table) :
    Keeps (Chronicle t start) (Runner.applyOne t applied m) := by
  refine (begin m.id).bind fun _ _ _ _ w h => ?_
  have executed := applyForward alone w h
  rw [run_tryCatch]
  rcases ends : w.run (Runner.applyForward t m) with ⟨e | _, w'⟩ <;> rwa [ends] at executed

theorem tryAgain (id : String) (alone : m.up.LeavesAlone t.table) :
    Keeps (Chronicle t start) (Runner.tryAgain t m id) :=
  (guarded m.id .retry (fun _ => rfl) (fun _ => rfl) fun _ => rfl).bind fun _ _ _ _ =>
    (keeps_idle (Engine.asks_note trivial)).bind fun _ _ _ _ => applyForward alone

theorem takeBackOne (rolledBack : List MigrationId) (alone : m.LeavesAlone t.table) :
    Keeps (Chronicle t start) (Runner.takeBackOne t rolledBack m) := by
  intro w h
  unfold Runner.takeBackOne
  cases down : m.down with
  | none => exact h
  | some action =>
      obtain ⟨outcome, w', runs, h'⟩ := h.executed (alone .down action down) m.id .down _
      dsimp only
      rw [runs]
      cases outcome with
      | ok =>
          exact ((remove m.id).bind fun _ _ _ _ => keeps_idle (Engine.asks_note trivial)) w' h'
      | error e =>
          exact keeps_idle ((Engine.asks_note trivial).bind fun _ => Engine.asks_throw _) w' h'

end Chronicle

theorem partsKeep_chronicle (t : Tracker) (start : World) : PartsKeep (Chronicle t start) t where
  idle _ _ idle h := h.respond_idle idle
  applyOne applied _ alone := .applyOne applied alone
  tryAgain _ id alone := .tryAgain id alone
  takeBackOne rolledBack _ alone := .takeBackOne rolledBack alone
  settle := .forceComplete
  drop := .drop

/-- Nothing is tracked yet: there is no tracking table with a name, or an empty one. -/
def Database.Untracked (db : Database) (name : TableName) : Prop :=
  db.find? name.relation = none ∨ ∃ constrained, db.Stores name ⟨constrained, []⟩

/-- Where nothing is tracked yet, the chronicle begins. -/
theorem Chronicle.begins {t : Tracker} {w : World} (untracked : w.database.Untracked t.table) :
    Chronicle t w w := by
  have rows : w.database.trackingRows t.table = [] := by
    rcases untracked with absent | ⟨constrained, stored⟩
    · simp only [Database.trackingRows, absent]
    · exact stored.trackingRows_eq
  have reserved : w.database.Reserved t.table := by
    rcases untracked with absent | ⟨constrained, stored⟩
    · exact .inl absent
    · exact .inr ⟨_, stored⟩
  exact ⟨reserved, by simp [rows], 0, [], .refl w, List.nil_sublist _, by simp [rows, Staged]⟩

end SchemaMigration
