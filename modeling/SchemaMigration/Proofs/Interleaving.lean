import Mathlib.Logic.Function.Basic
import SchemaMigration.Proofs.Chronicle
import SchemaMigration.Proofs.Diagram
import SchemaMigration.Proofs.Paths

/-! # Clients that share a table

Any number of clients work on one tracking table (`Shared`), each making one call of the tracker after
the other. Their requests are answered one at a time, in any order: what a client has read may be
outdated when it writes. Still each call that succeeds has gone along its own edge of the state diagram,
and one that is refused has changed nothing, because the statements themselves say from where they lead
on.
-/

namespace SchemaMigration

open World

inductive TrackerCall where
  | move (id : MigrationId) (step : Move)
  | remove (id : MigrationId)
  deriving DecidableEq

namespace TrackerCall

def id : TrackerCall → MigrationId
  | move id _ | remove id => id

/-- The edge that a call is meant to go along. -/
def edge : TrackerCall → Edge
  | move _ step => .moved step.transition
  | remove _ => .removed

/-- What a call does. It answers whether there was anything to do, which a move that succeeds always
    has. -/
def script (t : Tracker) : TrackerCall → Engine Bool
  | move id step => (fun _ => true) <$> step.script t id
  | remove id => t.remove id

/-- What the writes of a call have to be, given its result. -/
inductive Made (call : TrackerCall) : Except EngineError Bool → List Change → Prop
  | done (statement : Change) (about : statement.about = call.id.text)
      (own : statement.edge? = some call.edge) : Made call (.ok true) [statement]
  | vain (id : MigrationId) (removes : call = .remove id) : Made call (.ok false) []
  | failed (e : EngineError) : Made call (.error e) []

theorem Made.eq_nil {call : TrackerCall} {e : EngineError} {writes : List Change}
    (h : call.Made (.error e) writes) : writes = [] := by
  cases h
  rfl

end TrackerCall

/-- A call is named by its client and by its number among the calls of that client. -/
structure CallName where
  client : Nat
  number : Nat
  deriving DecidableEq

/-- How far a call is. -/
inductive CallPhase where
  | ahead
  | underway (call : TrackerCall) (rest : Script (Except EngineError Bool))
  | returned (call : TrackerCall) (result : Except EngineError Bool)

/-- What a call came to, once it is over. -/
def CallPhase.outcome? : CallPhase → Option (TrackerCall × Except EngineError Bool)
  | returned call result => some (call, result)
  | ahead | underway .. => none

theorem CallPhase.eq_returned {phase : CallPhase} {call : TrackerCall} {result : Except EngineError Bool}
    (h : phase.outcome? = some (call, result)) : phase = .returned call result := by
  cases phase with
  | returned => cases h; rfl
  | ahead | underway => cases h

/-- A request of a call, with its answer. -/
structure Moment where
  name : CallName
  request : Request
  answer : request.Response

/-- Clients that share a database. -/
structure Shared where
  world : World
  calls : CallName → CallPhase
  /-- The requests that were answered, in order. -/
  history : List Moment

/-- What happens next: a client starts a call, or one that is under way gets on. -/
inductive Turn where
  | start (name : CallName) (call : TrackerCall)
  | proceed (name : CallName)

namespace Shared

def start (w : World) : Shared := ⟨w, fun _ => .ahead, []⟩

/-- A client makes its calls one after the other. -/
def mayStart (s : Shared) (name : CallName) : Bool :=
  match name.number, s.calls name with
  | 0, .ahead => true
  | n + 1, .ahead =>
    match s.calls ⟨name.client, n⟩ with
    | .returned .. => true
    | .ahead | .underway .. => false
  | _, .underway .. | _, .returned .. => false

theorem ahead_of_mayStart {s : Shared} {name : CallName} (h : s.mayStart name = true) :
    s.calls name = .ahead := by
  unfold mayStart at h
  split at h
  · assumption
  · assumption
  · cases h
  · cases h

/-- Takes a turn, if it is possible. -/
def step (t : Tracker) (s : Shared) : Turn → Shared
  | .start name call =>
    if s.mayStart name then
      { s with calls := Function.update s.calls name (.underway call (call.script t).run) }
    else s
  | .proceed name =>
    match s.calls name with
    | .underway call (.request r next) =>
      let (answer, world) := respond r s.world
      ⟨world, Function.update s.calls name (.underway call (next answer)),
        s.history ++ [⟨name, r, answer⟩]⟩
    | .underway call (.done result) =>
      { s with calls := Function.update s.calls name (.returned call result) }
    | .ahead | .returned .. => s

theorem proceed_alone (t : Tracker) {s : Shared} {name : CallName} {call : TrackerCall}
    {rest : Script (Except EngineError Bool)} (phase : s.calls name = .underway call rest) :
    ∃ n, ((List.replicate n (.proceed name)).foldl (step t) s).world = (rest.run respond s.world).2 ∧
      ((List.replicate n (.proceed name)).foldl (step t) s).calls name =
        .returned call (rest.run respond s.world).1 := by
  induction rest generalizing s with
  | done result =>
      refine ⟨1, ?_⟩
      simp [step, phase, Script.run]
  | request r next ih =>
      let answered := s.step t (.proceed name)
      have proceeds : answered = ⟨(respond r s.world).2,
          Function.update s.calls name (.underway call (next (respond r s.world).1)),
          s.history ++ [⟨name, r, (respond r s.world).1⟩]⟩ := by
        simp only [answered, step, phase]
      obtain ⟨n, world, ends⟩ := ih (respond r s.world).1 (s := answered)
        (by rw [proceeds]; exact Function.update_self ..)
      refine ⟨n + 1, ?_, ?_⟩
      · rw [List.replicate_succ, List.foldl_cons, world, proceeds, Script.run]
      · rw [List.replicate_succ, List.foldl_cons, ends, proceeds, Script.run]

end Shared

/-- The statement of an answered request that changed rows of the table, if it is one. -/
def Request.write? (t : Tracker) : (r : Request) → r.Response → Option Change
  | .call c, answer => (Event.called c answer).write? t
  | .perform .., _ | .readClock, _ | .note .., _ => none

def Moment.write? (t : Tracker) (m : Moment) : Option Change :=
  m.request.write? t m.answer

/-- The statements about a migration that changed rows. -/
def writesOf (t : Tracker) (id : MigrationId) (history : List Moment) : List Change :=
  (history.filterMap (·.write? t)).filter (·.about = id.text)

/-- The statements of a call that changed rows. -/
def writesBy (t : Tracker) (name : CallName) (history : List Moment) : List Change :=
  (history.filter (·.name = name)).filterMap (·.write? t)

section
variable {t : Tracker} {id : MigrationId} {name : CallName} {before after : List Moment} {m : Moment}

theorem writesOf_append : writesOf t id (before ++ after) = writesOf t id before ++ writesOf t id after := by
  simp only [writesOf, List.filterMap_append, List.filter_append]

theorem writesOf_cons {statement : Change} (writes : m.write? t = some statement)
    (about : statement.about = id.text) :
    writesOf t id (m :: after) = statement :: writesOf t id after := by
  simp [writesOf, writes, about]

theorem writesOf_singleton_of_ne (other : ∀ statement, m.write? t = some statement →
    statement.about ≠ id.text) : writesOf t id [m] = [] := by
  cases writes : m.write? t with
  | none => simp [writesOf, writes]
  | some statement => simp [writesOf, writes, other statement writes]

theorem writesBy_own (own : m.name = name) :
    writesBy t name (before ++ [m]) = writesBy t name before ++ (m.write? t).toList := by
  cases writes : m.write? t <;> simp [writesBy, own, writes]

theorem writesBy_other (other : m.name ≠ name) :
    writesBy t name (before ++ [m]) = writesBy t name before := by
  simp [writesBy, other]

theorem mem_of_writesBy {statement : Change} (inside : statement ∈ writesBy t name before) :
    ∃ m ∈ before, m.name = name ∧ m.write? t = some statement := by
  obtain ⟨m, among, writes⟩ := List.mem_filterMap.mp inside
  obtain ⟨present, own⟩ := List.mem_filter.mp among
  exact ⟨m, present, of_decide_eq_true own, writes⟩

theorem mem_of_writesOf {statement : Change} (inside : statement ∈ writesOf t id before) :
    statement.about = id.text ∧ ∃ m ∈ before, m.write? t = some statement := by
  obtain ⟨among, about⟩ := List.mem_filter.mp inside
  obtain ⟨m, present, writes⟩ := List.mem_filterMap.mp among
  exact ⟨of_decide_eq_true about, m, present, writes⟩

end

/-- What calls of the tracker ask for. -/
def Request.Tracks (t : Tracker) : Request → Prop
  | .readClock | .call (.select ..) => True
  | .call (.change name statement) => name = t.table ∧ statement.edge?.isSome
  | .call (.relationExists _) | .call (.createSchema _) | .call (.createTable _)
  | .call (.dropTable _) | .call (.batch _) | .perform .. | .note .. => False

/-- Whether a database can give an answer: an insertion that succeeds has added one row. -/
def Request.Admits : (r : Request) → r.Response → Prop
  | .call (.change _ statement), .ok affected =>
    let count : Nat := affected
    statement.inserts = true → count = 1
  | _, _ => True

/-- Whatever answers the rest of a call gets, its writes will be what `Made` says. -/
def Script.Accounts (t : Tracker) (call : TrackerCall) :
    Script (Except EngineError Bool) → List Change → Prop
  | done result, made => call.Made result made
  | request r next, made =>
    r.Tracks t ∧ ∀ answer, r.Admits answer →
      (next answer).Accounts t call (made ++ (r.write? t answer).toList)

namespace Engine

def Accounts (t : Tracker) (call : TrackerCall) (x : Engine Bool) (made : List Change) : Prop :=
  Script.Accounts t call x.run made

variable {t : Tracker} {call : TrackerCall}

theorem accounts_throw (e : EngineError) : Accounts t call (throw e) [] :=
  TrackerCall.Made.failed e

theorem accounts_now {f : Time.Reading → Engine Bool} (next : ∀ now, Accounts t call (f now) []) :
    Accounts t call (now >>= f) [] :=
  ⟨trivial, fun now _ => next now⟩

theorem accounts_get? {id : String} {f : Option MigrationRecord → Engine Bool}
    (next : ∀ record, Accounts t call (f record) []) : Accounts t call (t.get? id >>= f) [] := by
  refine ⟨trivial, ?_⟩
  rintro (e | rows) -
  · exact TrackerCall.Made.failed _
  · change Accounts t call (ofExcept ((List.head? rows).mapM Tracker.decodeRow) >>= f) []
    cases (List.head? rows).mapM Tracker.decodeRow with
    | error e => exact accounts_throw e
    | ok record => exact next record

theorem accounts_change {statement : Change} {f : Nat → Engine Bool} (own : statement.edge?.isSome)
    (next : ∀ affected : Nat, (statement.inserts = true → affected = 1) →
      Accounts t call (f affected) (if 0 < affected then [statement] else [])) :
    Accounts t call (Engine.call (.change t.table statement) >>= f) [] := by
  refine ⟨⟨rfl, own⟩, ?_⟩
  rintro (e | affected) admitted
  · exact TrackerCall.Made.failed _
  · have written : Request.write? t (.call (.change t.table statement)) (.ok affected) =
        if 0 < (show Nat from affected) then some statement else none :=
      write?_carriedOut t statement affected
    have owed := next affected admitted
    rw [written]
    split at owed
    · rename_i found
      rwa [if_pos found]
    · rename_i missed
      rwa [if_neg missed]

end Engine

/-- A move from one state, as in `Tracker.guarded`, makes its own write, or asks for the state and
    refuses. -/
theorem accounts_guarded (t : Tracker) (id : MigrationId) (step : Move)
    {statement : Time.Reading → Change} (about : ∀ now, (statement now).about = id.text)
    (own : ∀ now, (statement now).edge? = some (.moved step.transition)) :
    Engine.Accounts t (.move id step)
      (t.guarded id step.transition statement >>= fun _ => pure true) [] := by
  simp only [Tracker.guarded, bind_assoc]
  refine Engine.accounts_now fun now => ?_
  refine Engine.accounts_change (by rw [own]; rfl) fun affected _ => ?_
  unfold Tracker.expectTransition
  by_cases found : 0 < affected
  · rw [if_pos found, if_neg (Nat.pos_iff_ne_zero.mp found)]
    exact .done _ (about now) (own now)
  · rw [if_neg found, if_pos (Nat.eq_zero_of_not_pos found), Tracker.state, ← bind_pure_comp]
    simp only [bind_assoc]
    exact Engine.accounts_get? fun record => Engine.accounts_throw _

theorem accounts_begin (t : Tracker) (id : MigrationId) :
    Engine.Accounts t (.move id .begin) (t.begin id >>= fun _ => pure true) [] := by
  rw [Tracker.begin, bind_assoc]
  refine Engine.accounts_get? fun record => ?_
  cases record with
  | some record => exact Engine.accounts_throw _
  | none =>
      change Engine.Accounts t _ ((do
        let now ← Engine.now
        discard (Engine.call (.change t.table (.insertStarted id.text now)))) >>= fun _ => pure true) []
      rw [bind_assoc]
      refine Engine.accounts_now fun now => ?_
      rw [discard, map_const, Function.comp_apply, ← bind_pure_comp, bind_assoc]
      refine Engine.accounts_change rfl fun affected added => ?_
      rw [added rfl]
      exact .done (.insertStarted id.text now) rfl rfl

/-- A call of the tracker makes its own write and no other one, and tells so. -/
theorem TrackerCall.accounts (t : Tracker) (call : TrackerCall) :
    Engine.Accounts t call (call.script t) [] := by
  cases call with
  | remove id =>
      refine Engine.accounts_change rfl fun affected _ => ?_
      by_cases found : 0 < affected
      · rw [if_pos found, decide_eq_true found]
        exact .done (.delete id.text) rfl rfl
      · rw [if_neg found, decide_eq_false found]
        exact .vain id rfl
  | move id step =>
      rw [script, ← bind_pure_comp]
      cases step with
      | begin => exact accounts_begin t id
      | complete checksum =>
          exact accounts_guarded t id (.complete checksum) (fun _ => rfl) fun _ => rfl
      | fail reason => exact accounts_guarded t id (.fail reason) (fun _ => rfl) fun _ => rfl
      | retry => exact accounts_guarded t id .retry (fun _ => rfl) fun _ => rfl

/-- What a request of the tracker can come to on a stored table: nothing is written, or one statement
    is carried out that affects rows. -/
inductive Effect (t : Tracker) (table : TrackingTable) (w' : World) : Option Change → Prop
  | quiet (stores : w'.database.Stores t.table table) : Effect t table w' none
  | written (statement : Change) (changed : TrackingTable) (affected : Nat)
      (own : statement.edge?.isSome) (applied : statement.apply table = .ok (changed, affected))
      (found : 0 < affected) (stores : w'.database.Stores t.table changed) :
      Effect t table w' (some statement)

section
variable {t : Tracker} {w : World} {table : TrackingTable}

theorem effect_change (stored : w.database.Stores t.table table) {statement : Change}
    (own : statement.edge?.isSome) :
    Request.Admits (.call (.change t.table statement)) (w.call (.change t.table statement)).1 ∧
    Effect t table (w.call (.change t.table statement)).2
      (Request.write? t (.call (.change t.table statement)) (w.call (.change t.table statement)).1) := by
  obtain ⟨e, w', called, same, -⟩ | ⟨w', called, database, -⟩ :=
    w.call_cases (.change t.table statement)
  · rw [called]
    exact ⟨trivial, .quiet (by rwa [same])⟩
  rw [called]
  rcases w.database.change_cases t.table statement with
    ⟨e, refused⟩ | ⟨other, changed, affected, stored', applied, answered⟩
  · rw [Database.answer, refused] at database ⊢
    exact ⟨trivial, .quiet (by rwa [database])⟩
  · obtain rfl : table = other := stored.unique stored'
    rw [Database.answer, answered] at database ⊢
    have stores : w'.database.Stores t.table changed := database ▸ stored.replaced changed
    refine ⟨fun inserts => ?_, ?_⟩
    · cases statement with
      | insertStarted | insertCompleted => exact (TrackingTable.insertion_inv applied).2.2
      | complete | fail | restart | settle | delete => cases inserts
    · change Effect t table w' ((t.carriedOut statement affected).write? t)
      rw [write?_carriedOut]
      split
      · rename_i found
        exact .written statement changed affected own applied found stores
      · rename_i missed
        obtain rfl : affected = 0 := Nat.eq_zero_of_not_pos missed
        exact .quiet (Change.eq_of_unaffected applied ▸ stores)

theorem effect_of_tracks (stored : w.database.Stores t.table table) {r : Request}
    (tracks : r.Tracks t) :
    r.Admits (respond r w).1 ∧ Effect t table (respond r w).2 (r.write? t (respond r w).1) := by
  cases r with
  | readClock => exact ⟨trivial, .quiet stored⟩
  | perform | note => exact tracks.elim
  | call c =>
      cases c with
      | relationExists | createSchema | createTable | dropTable | batch => exact tracks.elim
      | change name statement =>
          obtain ⟨rfl, own⟩ := tracks
          exact effect_change stored own
      | select name query =>
          refine ⟨trivial, .quiet ?_⟩
          change (w.call (.select name query)).2.database.Stores t.table table
          -- Struck or answered, a query leaves the database as it is.
          obtain ⟨e, w', called, same, -⟩ | ⟨w', called, same, -⟩ :=
            w.call_cases (.select name query) <;> (rw [called, same]; exact stored)

end

/-- What the writes of a call have to be by now. -/
def CallPhase.Owes (t : Tracker) : CallPhase → List Change → Prop
  | ahead, made => made = []
  | underway call rest, made => rest.Accounts t call made
  | returned call result, made => call.Made result made

/-- Clients that began with some rows have gone along the edges of the diagram, each for its own
    calls. -/
structure Orderly (t : Tracker) (start : List TrackingRow) (s : Shared) : Prop where
  kept : ∃ rows, s.world.database.Stores t.table ⟨true, rows⟩ ∧ (rows.map TrackingRow.id).Nodup ∧
    ∀ id, Path (stateIn? start id) (writesOf t id s.history) (stateIn? rows id)
  accounted : ∀ name, (s.calls name).Owes t (writesBy t name s.history)

namespace Orderly

variable {t : Tracker} {start : List TrackingRow} {s : Shared}

theorem begins {w : World} (stored : w.database.Stores t.table ⟨true, start⟩)
    (unique : (start.map TrackingRow.id).Nodup) : Orderly t start (.start w) where
  kept := ⟨start, stored, unique, fun _ => .nil _⟩
  accounted _ := rfl

theorem turn (h : Orderly t start s) {name : CallName} {phase : CallPhase}
    (owes : (s.calls name).Owes t (writesBy t name s.history) →
      phase.Owes t (writesBy t name s.history)) :
    Orderly t start { s with calls := Function.update s.calls name phase } := by
  refine ⟨h.kept, fun other => ?_⟩
  by_cases same : other = name
  · subst same
    simpa using owes (h.accounted other)
  · simpa [same] using h.accounted other

/-- The path of each migration goes on along the edge of what is written. -/
theorem path_extends {rows : List TrackingRow} {w' : World} {m : Moment}
    (unique : (rows.map TrackingRow.id).Nodup)
    (path : ∀ id, Path (stateIn? start id) (writesOf t id s.history) (stateIn? rows id))
    (effect : Effect t ⟨true, rows⟩ w' (m.write? t)) :
    ∃ rows', w'.database.Stores t.table ⟨true, rows'⟩ ∧ (rows'.map TrackingRow.id).Nodup ∧
      ∀ id, Path (stateIn? start id) (writesOf t id (s.history ++ [m])) (stateIn? rows' id) := by
  generalize writes : m.write? t = write at effect
  cases effect with
  | quiet stores =>
      refine ⟨rows, stores, unique, fun id => ?_⟩
      rw [writesOf_append, writesOf_singleton_of_ne (by simp [writes]), List.append_nil]
      exact path id
  | written statement changed affected own applied found stores =>
      have constrained : changed.isConstrained = true := Change.isConstrained_apply applied
      refine ⟨changed.rows, ?_, Change.unique_apply unique
        (Change.fits_of_constrained applied rfl) applied, fun id => ?_⟩
      · rw [← constrained]
        exact stores
      rw [writesOf_append]
      by_cases about : statement.about = id.text
      · obtain ⟨edge, own⟩ := Option.isSome_iff_exists.mp own
        rw [writesOf_cons writes about]
        exact (path id).append
          (.cons own (Change.leads applied rfl unique found about own) (.nil _))
      · rw [writesOf_singleton_of_ne (by simpa [writes] using about), List.append_nil,
          Change.stateIn?_of_ne applied about]
        exact path id

theorem step (h : Orderly t start s) (turn : Turn) : Orderly t start (s.step t turn) := by
  cases turn with
  | start name call =>
      unfold Shared.step
      dsimp only
      split
      · rename_i may
        refine h.turn fun owes => ?_
        rw [Shared.ahead_of_mayStart may] at owes
        rw [show writesBy t name s.history = [] from owes]
        exact call.accounts t
      · exact h
  | proceed name =>
      have owes := h.accounted name
      unfold Shared.step
      dsimp only
      split
      · rename_i call r next phase
        rw [phase] at owes
        obtain ⟨rows, stored, unique, path⟩ := h.kept
        obtain ⟨admits, effect⟩ := effect_of_tracks stored owes.1
        refine ⟨path_extends unique path effect, fun other => ?_⟩
        by_cases same : other = name
        · subst same
          simp only [Function.update_self]
          rw [writesBy_own (m := ⟨other, r, (respond r s.world).1⟩) rfl]
          exact owes.2 _ admits
        · simp only [Function.update_of_ne same]
          rw [writesBy_other (Ne.symm same)]
          exact h.accounted other
      · rename_i call result phase
        rw [phase] at owes
        exact h.turn fun _ => owes
      · exact h
      · exact h

theorem steps (h : Orderly t start s) (turns : List Turn) :
    Orderly t start (turns.foldl (Shared.step t) s) := by
  induction turns generalizing s with
  | nil => exact h
  | cons turn rest ih => exact ih (h.step turn)

end Orderly

theorem split_of_ne {α : Type} {l : List α} {a b : α} (first : a ∈ l) (second : b ∈ l) (different : a ≠ b) :
    (∃ x y z, l = x ++ a :: (y ++ b :: z)) ∨ ∃ x y z, l = x ++ b :: (y ++ a :: z) := by
  obtain ⟨x, rest, rfl⟩ := List.append_of_mem first
  rcases List.mem_append.mp second with earlier | later
  · obtain ⟨x, y, rfl⟩ := List.append_of_mem earlier
    exact .inr ⟨x, y, rest, by simp⟩
  · obtain ⟨y, z, rfl⟩ :=
      List.append_of_mem ((List.mem_cons.mp later).resolve_left (Ne.symm different))
    exact .inl ⟨x, y, z, rfl⟩

/-- After one call has begun a migration and before another one has, it was removed. -/
def RemovedBetween (t : Tracker) (id : MigrationId) (history : List Moment) (first second : CallName) :
    Prop :=
  ∃ before m between m' after start start', history = before ++ m :: (between ++ m' :: after) ∧
    m.name = first ∧ m.write? t = some (.insertStarted id.text start) ∧
    m'.name = second ∧ m'.write? t = some (.insertStarted id.text start') ∧
    ∃ removal ∈ between, removal.write? t = some (.delete id.text)

theorem Change.eq_insertStarted {statement : Change} (own : statement.edge? = some (.moved .begin)) :
    ∃ now, statement = .insertStarted statement.about now := by
  cases statement with
  | insertStarted text now => exact ⟨now, rfl⟩
  | _ => cases own

theorem Change.eq_delete {statement : Change} (own : statement.edge? = some .removed) :
    statement = .delete statement.about := by
  cases statement with
  | delete => rfl
  | _ => cases own

theorem Path.removedBetween {t : Tracker} {id : MigrationId} {s s' : Option MigrationState}
    {before between after : List Moment} {m m' : Moment} {start start' : Time.Reading}
    (path : Path s (writesOf t id (before ++ m :: (between ++ m' :: after))) s')
    (begun : m.write? t = some (.insertStarted id.text start))
    (again : m'.write? t = some (.insertStarted id.text start')) :
    RemovedBetween t id (before ++ m :: (between ++ m' :: after)) m.name m'.name := by
  rw [writesOf_append, writesOf_cons begun rfl, writesOf_append, writesOf_cons again rfl] at path
  obtain ⟨statement, among, removed⟩ := path.removed_between rfl rfl
  obtain ⟨about, removal, inside, writes⟩ := mem_of_writesOf among
  rw [Change.eq_delete removed, about] at writes
  exact ⟨before, m, between, m', after, start, start', rfl, rfl, begun, rfl, again, removal, inside,
    writes⟩

theorem TrackerCall.Made.insertion {t : Tracker} {id : MigrationId} {name : CallName}
    {history : List Moment} (made : TrackerCall.Made (.move id .begin) (.ok true) (writesBy t name history)) :
    ∃ m ∈ history, m.name = name ∧ ∃ start, m.write? t = some (.insertStarted id.text start) := by
  generalize writes : writesBy t name history = statements at made
  cases made with
  | done statement about own =>
      obtain ⟨m, inside, named, written⟩ := mem_of_writesBy (writes ▸ List.mem_cons_self)
      obtain ⟨start, same⟩ := Change.eq_insertStarted own
      rw [same, about] at written
      exact ⟨m, inside, named, start, written⟩

/-- However the requests of clients that share a table are interleaved, and whatever calls fail: for each
    migration, the statements that changed its row lead along the state diagram from the state that it
    had to the one that it has. A call that succeeded made exactly one write (`Made`), of its own kind
    and for its own migration; one that ended with an error made none, and so did a removal that found
    nothing. Where two calls have begun one migration, it was removed in between. -/
theorem interleaving_safe (t : Tracker) (turns : List Turn) (w : World) (rows : List TrackingRow)
    (stored : w.database.Stores t.table ⟨true, rows⟩) (unique : (rows.map TrackingRow.id).Nodup) :
    let s := turns.foldl (Shared.step t) (.start w)
    (∃ rows', s.world.database.Stores t.table ⟨true, rows'⟩ ∧
      ∀ id, Path (stateIn? rows id) (writesOf t id s.history) (stateIn? rows' id)) ∧
    (∀ name call result, s.calls name = .returned call result →
      call.Made result (writesBy t name s.history)) ∧
    ∀ first second id, first ≠ second → s.calls first = .returned (.move id .begin) (.ok true) →
      s.calls second = .returned (.move id .begin) (.ok true) →
      RemovedBetween t id s.history first second ∨ RemovedBetween t id s.history second first := by
  intro s
  have orderly : Orderly t rows s := (Orderly.begins stored unique).steps turns
  have made {name : CallName} {call : TrackerCall} {result : Except EngineError Bool}
      (ends : s.calls name = .returned call result) : call.Made result (writesBy t name s.history) := by
    have owes := orderly.accounted name
    rwa [ends] at owes
  obtain ⟨rows', stored', -, path⟩ := orderly.kept
  refine ⟨⟨rows', stored', path⟩, fun name call result ends => made ends, ?_⟩
  intro first second id different ends ends'
  obtain ⟨m, inside, rfl, start, begun⟩ := (made ends).insertion
  obtain ⟨m', inside', rfl, start', again⟩ := (made ends').insertion
  have path := path id
  rcases split_of_ne inside inside' fun same => different (congrArg Moment.name same) with
    ⟨before, between, after, parts⟩ | ⟨before, between, after, parts⟩
  · rw [parts] at path ⊢
    exact .inl (path.removedBetween begun again)
  · rw [parts] at path ⊢
    exact .inr (path.removedBetween again begun)

/-- A client begins a migration that another one removes and begins again, before the call of the first
    one is over. A third client has looked before that, and its insertion is refused. -/
theorem interleaving_safe_stale :
    let id : MigrationId := ⟨"001", by decide⟩
    let t : Tracker := ⟨.standard⟩
    let w := World.ticking (.holding .empty)
    let first : CallName := ⟨0, 0⟩
    let removal : CallName := ⟨1, 0⟩
    let second : CallName := ⟨1, 1⟩
    let stale : CallName := ⟨2, 0⟩
    let turns : List Turn :=
      [.start first (.move id .begin), .start stale (.move id .begin), .proceed first, .proceed stale,
        .proceed first, .proceed first, .start removal (.remove id), .proceed removal, .proceed removal,
        .start second (.move id .begin), .proceed second, .proceed second, .proceed second,
        .proceed second, .proceed stale, .proceed stale, .proceed stale, .proceed first]
    let s := turns.foldl (Shared.step t) (.start w)
    let refusal : EngineError := .database (.execution
      (Violation.message t.table.text (.duplicateId "001") ++ ": " ++
        Change.sql t.table (.insertStarted "001" (.ofMicros 0))))
    (w.database.Stores t.table ⟨true, []⟩ ∧ (([] : List TrackingRow).map TrackingRow.id).Nodup ∧
      first ≠ second ∧ s.calls first = .returned (.move id .begin) (.ok true) ∧
      s.calls second = .returned (.move id .begin) (.ok true) ∧
      s.calls stale = .returned (.move id .begin) (.error refusal)) ∧
    (RemovedBetween t id s.history first second ∨ RemovedBetween t id s.history second first) ∧
    writesBy t stale s.history = [] := by
  intro id t w first removal second stale turns s refusal
  have stored : w.database.Stores t.table ⟨true, []⟩ := .holding _
  have begun : s.calls first = .returned (.move id .begin) (.ok true) :=
    CallPhase.eq_returned (by decide +kernel)
  have again : s.calls second = .returned (.move id .begin) (.ok true) :=
    CallPhase.eq_returned (by decide +kernel)
  have refused : s.calls stale = .returned (.move id .begin) (.error refusal) :=
    CallPhase.eq_returned (by decide +kernel)
  have different : first ≠ second := by decide
  have same : s = turns.foldl (Shared.step t) (.start w) := rfl
  obtain ⟨-, made, between⟩ := interleaving_safe t turns w [] stored .nil
  rw [← same] at made between
  exact ⟨⟨stored, .nil, different, begun, again, refused⟩, between first second id different begun again,
    (made stale _ _ refused).eq_nil⟩

end SchemaMigration
