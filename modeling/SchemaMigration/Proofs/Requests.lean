import SchemaMigration.Engine.Recovery
import SchemaMigration.Engine.Rollback
import SchemaMigration.Engine.Status
import SchemaMigration.Proofs.Transitions

/-! # What operations ask for

The requests that an operation can come to, whatever answers it gets (`Asks`). A statement about them is
proved on the text of the operation alone; together with what a single request does to a world it says
what the whole operation does, for every pattern of failures.
-/

namespace SchemaMigration

namespace Script

variable {α β σ : Type} {P : Request → Prop}

/-- Every request that a script can come to is of a kind. -/
def Asks (P : Request → Prop) : Script α → Prop
  | done _ => True
  | request r next => P r ∧ ∀ answer, (next answer).Asks P

theorem Asks.bind {x : Script α} {f : α → Script β} (first : x.Asks P)
    (rest : ∀ a, (f a).Asks P) : (x.bind f).Asks P := by
  induction x with
  | done a => exact rest a
  | request r next ih => exact ⟨first.1, fun answer => ih answer (first.2 answer)⟩

/-- What every request of a kind keeps, a script that `Asks` for nothing else keeps as well. -/
theorem Asks.keeps {I : σ → Prop} {respond : (r : Request) → σ → r.Response × σ}
    (step : ∀ r s, P r → I s → I (respond r s).2) {x : Script α} (asks : x.Asks P) {s : σ}
    (start : I s) : I (x.run respond s).2 := by
  induction x generalizing s with
  | done a => exact start
  | request r next ih => exact ih _ (asks.2 _) (step r s asks.1 start)

end Script

namespace Engine

variable {α β : Type} {P : Request → Prop}

def Asks (P : Request → Prop) (x : Engine α) : Prop :=
  Script.Asks P x.run

theorem asks_pure (a : α) : Asks P (pure a) := trivial

theorem asks_throw (e : EngineError) : Asks P (throw e : Engine α) := trivial

theorem asks_ofExcept (r : Except EngineError α) : Asks P (ofExcept r) := trivial

theorem asks_call {c : Call} (h : P (.call c)) : Asks P (call c) := ⟨h, fun _ => trivial⟩

theorem asks_now (h : P .readClock) : Asks P now := ⟨h, fun _ => trivial⟩

theorem asks_note {level : Level} {text : String} (h : P (.note level text)) :
    Asks P (note level text) := ⟨h, fun _ => trivial⟩

theorem Asks.bind {x : Engine α} {f : α → Engine β} (first : Asks P x) (rest : ∀ a, Asks P (f a)) :
    Asks P (x >>= f) := by
  apply Script.Asks.bind first
  rintro (e | a)
  · trivial
  · exact rest a

theorem Asks.map {x : Engine α} (h : Asks P x) (f : α → β) : Asks P (f <$> x) := by
  rw [← bind_pure_comp]
  exact h.bind fun a => asks_pure (f a)

theorem asks_forM {as : List α} {f : α → Engine PUnit} (h : ∀ a ∈ as, Asks P (f a)) :
    Asks P (as.forM f) := by
  induction as with
  | nil => trivial
  | cons a rest ih =>
      exact (h a List.mem_cons_self).bind fun _ =>
        ih fun b inside => h b (List.mem_cons_of_mem a inside)

section
variable (note : ∀ level text, P (.note level text))
include note

theorem asks_checkDirty (force : Bool) (records : List MigrationRecord) :
    Asks P (Runner.checkDirty force records) := by
  unfold Runner.checkDirty
  split
  · exact asks_pure ()
  · cases force
    · exact asks_throw _
    · exact asks_note (note _ _)

theorem asks_checkDrift (strict : Bool) (records : List MigrationRecord)
    (migrations : List Migration) : Asks P (Runner.checkDrift strict records migrations) := by
  unfold Runner.checkDrift
  apply Asks.bind (asks_forM fun text _ => asks_note (note _ text))
  intro _
  split
  · exact asks_throw _
  · exact asks_pure ()

end

theorem asks_checkTarget (migrations : List Migration) (target : RunTarget) :
    Asks P (Runner.checkTarget migrations target) := by
  unfold Runner.checkTarget
  split
  · split
    · exact asks_throw _
    · exact asks_pure ()
  · exact asks_pure ()

end Engine

/-- A kind of requests that includes looking at a tracking table and taking notes. -/
structure AdmitsLooking (P : Request → Prop) (t : Tracker) : Prop where
  select : ∀ query, P (.call (.select t.table query))
  relationExists : P (.call (.relationExists t.table))
  note : ∀ level text, P (.note level text)

namespace AdmitsLooking

open Engine

variable {P : Request → Prop} {t : Tracker} (h : AdmitsLooking P t)
include h

theorem records (query : Query) : Asks P (t.records query) :=
  (asks_call (h.select query)).bind fun _ => asks_ofExcept _

theorem get? (id : String) : Asks P (t.get? id) :=
  (asks_call (h.select _)).bind fun _ => asks_ofExcept _

theorem state (id : String) : Asks P (t.state id) :=
  (h.get? id).map _

theorem isCreated : Asks P t.isCreated :=
  asks_call h.relationExists

theorem listIfCreated : Asks P t.listIfCreated :=
  h.isCreated.bind fun created => by
    cases created
    · exact asks_pure []
    · exact h.records .all

theorem status (s : Source) : Asks P (Runner.status ⟨s, t⟩) :=
  (asks_ofExcept _).bind fun _ => h.listIfCreated.bind fun _ => asks_pure _

theorem validate (s : Source) : Asks P (Runner.validate ⟨s, t⟩) :=
  (asks_ofExcept _).bind fun _ => h.listIfCreated.bind fun _ =>
    (asks_forM fun _ _ => asks_note (h.note _ _)).bind fun _ => asks_pure _

theorem checkLowerEnd (tableExists : Bool) (migrations : List Migration)
    (strategy : RollbackStrategy) :
    Asks P (Runner.checkLowerEnd t tableExists migrations strategy) := by
  unfold Runner.checkLowerEnd
  split
  · rename_i id
    have refuse (tracked : Bool) : Asks P
        (if (!(migrations.any (·.id = id)) && !tracked) = true then
          throw (.notFound id.text) else pure () : Engine Unit) := by
      split
      · exact asks_throw _
      · exact asks_pure ()
    cases tableExists
    · exact (asks_pure false).bind refuse
    · exact ((h.get? id.text).map _).bind refuse
  · exact asks_pure ()

theorem planRollback (s : Source) (strategy : RollbackStrategy) :
    Asks P (Runner.planRollback ⟨s, t⟩ strategy) := by
  refine (asks_ofExcept _).bind fun migrations => h.isCreated.bind fun tableExists =>
    (h.checkLowerEnd tableExists migrations strategy).bind fun _ => ?_
  cases tableExists
  · exact (asks_pure []).bind fun _ => asks_ofExcept _
  · exact (h.records .completedByRecency).bind fun _ => asks_ofExcept _

theorem markTarget (migrations : List Migration) (id : String) :
    Asks P (Runner.markTarget t migrations id) := by
  unfold Runner.markTarget
  split
  · exact asks_pure _
  · refine (h.get? id).bind fun record => ?_
    cases record with
    | none => exact asks_throw _
    | some record => exact (asks_note (h.note _ _)).bind fun _ => asks_pure _

theorem begin (clock : P .readClock) {id : MigrationId}
    (insert : ∀ now, P (.call (.change t.table (.insertStarted id.text now)))) :
    Asks P (t.begin id) := by
  unfold Tracker.begin
  refine (h.get? id.text).bind fun record => ?_
  have insertion : Asks P (do
      let now ← Engine.now
      discard (Engine.call (.change t.table (.insertStarted id.text now)))) :=
    (asks_now clock).bind fun now => (asks_call (insert now)).map _
  cases record with
  | some record => exact asks_throw _
  | none => exact insertion

theorem guarded (clock : P .readClock) (id : MigrationId) (operation : Transition)
    {statement : Time.Reading → Change}
    (change : ∀ now, P (.call (.change t.table (statement now)))) :
    Asks P (t.guarded id operation statement) :=
  (asks_now clock).bind fun now => (asks_call (change now)).bind fun affected => by
    unfold Tracker.expectTransition
    split
    · exact (h.state id.text).bind fun _ => asks_throw _
    · exact asks_pure ()

end AdmitsLooking

/-- A kind of requests that includes making a tracking table where it is missing. -/
structure AdmitsMaking (P : Request → Prop) (t : Tracker) : Prop extends AdmitsLooking P t where
  createSchema : ∀ schema, P (.call (.createSchema schema))
  createTable : P (.call (.createTable t.table))

theorem AdmitsMaking.ensure {P : Request → Prop} {t : Tracker} (h : AdmitsMaking P t) :
    Engine.Asks P t.ensure := by
  unfold Tracker.ensure
  have make : Engine.Asks P (Engine.call (.createTable t.table)) := Engine.asks_call h.createTable
  split
  · exact (Engine.asks_call (h.createSchema _)).bind fun _ => make
  · exact make

/-- A kind of requests that includes recording migrations as completed. -/
structure AdmitsSettling (P : Request → Prop) (t : Tracker) : Prop extends AdmitsMaking P t where
  clock : P .readClock
  insertCompleted : ∀ id now checksum,
    P (.call (.change t.table (.insertCompleted id now checksum)))
  settle : ∀ id now checksum, P (.call (.change t.table (.settle id now checksum)))

namespace AdmitsSettling

open Engine

variable {P : Request → Prop} {t : Tracker} (h : AdmitsSettling P t)
include h

theorem forceComplete (id : MigrationId) (checksum : Option String) :
    Asks P (t.forceComplete id checksum) := by
  unfold Tracker.forceComplete
  refine (h.state id.text).bind fun previous => (asks_now h.clock).bind fun now => ?_
  cases previous with
  | pending =>
      exact ((asks_call (h.insertCompleted id.text now checksum)).map _).bind fun _ => asks_pure _
  | inProgress | completed | failed =>
      exact ((asks_call (h.settle id.text now checksum)).map _).bind fun _ => asks_pure _

end AdmitsSettling

end SchemaMigration
