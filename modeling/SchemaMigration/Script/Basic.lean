import SchemaMigration.Database.Call
import SchemaMigration.Migration.Basic

/-! # Scripts

A `Script` asks its surroundings one thing after the other: for calls on the database, for actions of
migrations, for the time, and for notes in the log. What it asks next depends on the answers only. So a
script says what is done in which order and leaves open what comes of it, and a statement about all
answers holds whatever fails.
-/

namespace SchemaMigration

inductive Level where
  | info
  | warn
  | error
  deriving Repr, DecidableEq

def Level.text : Level → String
  | info => "info"
  | warn => "warn"
  | error => "error"

/-- What a script asks for. -/
inductive Request where
  | call (c : Call)
  /-- One execution of a migration's action in a direction. -/
  | perform (id : MigrationId) (direction : Direction) (action : Action)
  | readClock
  | note (level : Level) (text : String)

/-- The answers to a request. -/
def Request.Response : Request → Type
  | call c => Except DbError c.Result
  | perform .. => Except DbError Unit
  | readClock => Time.Reading
  | note .. => Unit

/-- A sequence of requests that ends with a value. -/
inductive Script (α : Type) where
  | done (a : α)
  | request (r : Request) (next : r.Response → Script α)

namespace Script

variable {α β γ σ : Type}

def bind : Script α → (α → Script β) → Script β
  | done a, f => f a
  | request r next, f => request r fun answer => (next answer).bind f

instance : Monad Script where
  pure := done
  bind := bind

def ask (r : Request) : Script r.Response :=
  request r done

/-- Carries out a script with a function that answers requests and changes a state. -/
def run (respond : (r : Request) → σ → r.Response × σ) : Script α → σ → α × σ
  | done a, s => (a, s)
  | request r next, s => run respond (next (respond r s).1) (respond r s).2

theorem bind_done (x : Script α) : x.bind done = x := by
  induction x with
  | done a => rfl
  | request r next ih => exact congrArg (request r) (funext ih)

theorem bind_assoc (x : Script α) (f : α → Script β) (g : β → Script γ) :
    (x.bind f).bind g = x.bind fun a => (f a).bind g := by
  induction x with
  | done a => rfl
  | request r next ih => exact congrArg (request r) (funext ih)

instance : LawfulMonad Script :=
  LawfulMonad.mk' Script bind_done (fun _ _ => rfl) bind_assoc

theorem run_bind (respond : (r : Request) → σ → r.Response × σ) (x : Script α) (f : α → Script β)
    (s : σ) :
    (x >>= f).run respond s = (f (x.run respond s).1).run respond (x.run respond s).2 := by
  change (x.bind f).run respond s = _
  induction x generalizing s with
  | done a => rfl
  | request r next ih => exact ih _ _

end Script

end SchemaMigration
