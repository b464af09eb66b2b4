import SchemaMigration.Cli.Program
import SchemaMigration.Proofs.Answers
import SchemaMigration.Proofs.Execution
import SchemaMigration.Proofs.Requests

/-! # Parts of commands

How the parts of a command follow each other, what asking a question does to a session, and what lasts
through parts of a command that ask nothing.
-/

namespace SchemaMigration.Cli

variable {α β : Type}

namespace Command

theorem run_bind (x : Command α) (f : α → Command β) (st : Session) :
    (x >>= f).run st = match x.run st with
      | (.ok a, st') => (f a).run st'
      | (.error e, st') => (.error e, st') := by
  change ExceptT.bindCont f (x.run st).1 (x.run st).2 = _
  generalize x.run st = result
  obtain ⟨e | a, st'⟩ := result <;> rfl

theorem run_bind_ok {x : Command α} {st st' : Session} {a : α} (h : x.run st = (.ok a, st'))
    (f : α → Command β) : (x >>= f).run st = (f a).run st' := by
  rw [run_bind, h]

theorem run_bind_error {x : Command α} {st st' : Session} {e : Failure}
    (h : x.run st = (.error e, st')) (f : α → Command β) :
    (x >>= f).run st = (.error e, st') := by
  rw [run_bind, h]

theorem run_map (f : α → β) (x : Command α) (st : Session) :
    (f <$> x).run st = ((x.run st).1.map f, (x.run st).2) := by
  rw [← bind_pure_comp, run_bind]
  generalize x.run st = result
  obtain ⟨e | a, st'⟩ := result <;> rfl

end Command

/-- What is left of a session when questions have been put and answered. -/
structure Session.Asked (st : Session) (questions : String) (unread : List UInt8) (st' : Session) :
    Prop where
  input : st'.input = unread
  output : st'.output = st.output ++ questions
  world : st'.world = st.world

theorem Session.Asked.refl (st : Session) : st.Asked "" st.input st :=
  ⟨rfl, String.append_empty.symm, rfl⟩

theorem Session.Asked.trans {st st' st'' : Session} {questions questions' : String}
    {unread unread' : List UInt8} (first : st.Asked questions unread st')
    (second : st'.Asked questions' unread' st'') : st.Asked (questions ++ questions') unread' st'' where
  input := second.input
  output := by rw [second.output, first.output, String.append_assoc]
  world := second.world.trans first.world

/-- A question takes the first line of the input, whatever it holds, and is answered by it alone. -/
theorem Command.ask_ends (question : String) (st : Session) {line rest : List UInt8}
    (first : FirstLine st.input line rest) :
    ∃ st', (Command.ask question).run st =
        ((answerOf line).mapError fun fault => .report (unreadableAnswer fault), st') ∧
      st.Asked question rest st' := by
  let asked := st.write question
  have parted : Cli.readAnswer asked.input = (answerOf line, rest) := by
    rw [Cli.readAnswer, show splitLine asked.input = _ from splitLine_complete first]
  have read : asked.readAnswer.1 = answerOf line ∧ st.Asked question rest asked.readAnswer.2 := by
    rw [Session.readAnswer, parted]
    exact ⟨rfl, rfl, rfl, rfl⟩
  have writes : (modify fun s => s.write question : Command Unit).run st = (.ok (), asked) := rfl
  have reads : (modifyGet Session.readAnswer : Command (Except ReadFault String)).run asked =
      (.ok (answerOf line), asked.readAnswer.2) := by
    rw [← read.1]
    rfl
  refine ⟨asked.readAnswer.2, ?_, read.2⟩
  rw [ask, run_bind_ok writes, run_bind_ok reads]
  cases answerOf line <;> rfl

theorem reportError_world (st : Session) (e : EngineError) : (reportError st e).2.world = st.world := by
  cases e <;> rfl

theorem Command.engine_world (x : Engine α) (st : Session) :
    ((Command.engine x).run st).2.world = (st.world.run x).2 := by
  change (Command.engine x st).2.world = (st.engine x).2.world
  unfold Command.engine
  rcases st.engine x with ⟨e | a, st'⟩
  · exact reportError_world st' e
  · rfl

theorem Command.engine_ends (x : Engine α) (st : Session) :
    (∃ e, (st.world.run x).1 = .error e ∧
      ((Command.engine x).run st).1 = .error (reportError (st.engine x).2 e).1) ∨
    ∃ a, (st.world.run x).1 = .ok a ∧ ((Command.engine x).run st).1 = .ok a := by
  have same : (st.engine x).1 = (st.world.run x).1 := rfl
  rw [← same]
  change (∃ e, _ ∧ (Command.engine x st).1 = _) ∨ ∃ a, _ ∧ (Command.engine x st).1 = _
  unfold Command.engine
  rcases st.engine x with ⟨e | a, st'⟩
  · exact .inl ⟨e, rfl, rfl⟩
  · exact .inr ⟨a, rfl, rfl⟩

/-- Whatever holds of a session at first holds of it after a part of a command. -/
def Command.Keeps (I : Session → Prop) (x : Command α) : Prop :=
  ∀ st, I st → I (x.run st).2

theorem Command.holds_after_bind {I : Session → Prop} {x : Command α} {f : α → Command β} {st : Session}
    (first : I (x.run st).2) (rest : ∀ a, Keeps I (f a)) : I ((x >>= f).run st).2 := by
  rcases ends : x.run st with ⟨e | a, st'⟩
  · rw [run_bind_error ends]
    rwa [ends] at first
  · rw [run_bind_ok ends]
    rw [ends] at first
    exact rest a st' first

theorem Command.Keeps.bind {I : Session → Prop} {x : Command α} {f : α → Command β}
    (first : Keeps I x) (rest : ∀ a, Keeps I (f a)) : Keeps I (x >>= f) :=
  fun st start => holds_after_bind (first st start) rest

/-- A condition on sessions that lasts whatever is written and whatever of a kind is asked of the
    world. -/
structure Lasts (P : Request → Prop) (I : Session → Prop) : Prop where
  write : ∀ st text, I st → I (st.write text)
  writeError : ∀ st text, I st → I (st.writeError text)
  respond : ∀ st r, P r → I st → I { st with world := (World.respond r st.world).2 }

namespace Lasts

variable {P : Request → Prop} {I : Session → Prop} (h : Lasts P I)
include h

theorem line (text : String) : Command.Keeps I (Command.line text) :=
  fun st start => h.write st _ start

theorem lines (texts : List String) : Command.Keeps I (Command.lines texts) :=
  fun st start => h.write st _ start

theorem reportError {st : Session} (start : I st) (e : EngineError) : I (Cli.reportError st e).2 := by
  cases e with
  | dirtyState => exact h.writeError st _ start
  | execution => exact h.writeError _ _ (h.write st _ start)
  | _ => exact start

theorem engine {x : Engine α} (asks : Engine.Asks P x) : Command.Keeps I (Command.engine x) := by
  intro st start
  have worked : I { st with world := (st.world.run x).2 } :=
    Script.Asks.keeps (I := fun w => I { st with world := w })
      (fun r w kind holds => h.respond { st with world := w } r kind holds) asks start
  have shown : I (st.engine x).2 := h.writeError _ _ worked
  change I (Command.engine x st).2
  unfold Command.engine
  revert shown
  rcases st.engine x with ⟨e | a, st'⟩
  · exact fun shown => h.reportError shown e
  · exact fun shown => shown

end Lasts

/-- How the command of an invocation ends on a project that is open, and the session it leaves. -/
def Invocation.ending (i : Invocation) (s : Surroundings) (opened : OpenProject) :
    Except Failure Unit × Session :=
  (i.command.run opened.project).run (i.session s opened.database)

def exitCode : Except Failure Unit → Nat
  | .ok () => 0
  | .error failure => failure.code

theorem Invocation.run_opened {i : Invocation} {s : Surroundings} {opened : OpenProject}
    (opens : i.options.openProject s.files = .ok opened) :
    (i.run s).code = exitCode (i.ending s opened).1 ∧
      (i.run s).output = (i.ending s opened).2.output ∧
      (i.run s).files = opened.files.saveDatabase opened.databasePath
        (i.ending s opened).2.world.database := by
  rcases ends : i.ending s opened with ⟨result, after⟩
  unfold ending at ends
  simp only [run, opens, ends, and_true]
  cases result <;> rfl

theorem code_mapError {ε : Type} {x : Except ε α} {f : ε → Failure} (told : ∀ e, (f e).code = 1)
    {failure : Failure} (fails : x.mapError f = .error failure) : failure.code = 1 := by
  cases x with
  | error e =>
      cases fails
      exact told e
  | ok a => cases fails

theorem code_bind {x : Except Failure α} {f : α → Except Failure β}
    (first : ∀ e, x = .error e → e.code = 1) (rest : ∀ a e, f a = .error e → e.code = 1)
    {failure : Failure} (fails : x >>= f = .error failure) : failure.code = 1 := by
  cases x with
  | error e =>
      cases fails
      exact first _ rfl
  | ok a => exact rest a failure fails

theorem code_then {x : Except Failure α} {f : α → β} (first : ∀ e, x = .error e → e.code = 1)
    {failure : Failure} (fails : (do return f (← x)) = .error failure) : failure.code = 1 :=
  code_bind first (fun a e wrong => nomatch (show Except.ok (f a) = .error e from wrong)) fails

theorem Invocation.run_unopened {i : Invocation} {s : Surroundings} {failure : Failure}
    (fails : i.options.openProject s.files = .error failure) :
    (i.run s).code = 1 ∧ (i.run s).files = s.files := by
  have config (e : Failure) (wrong : i.options.resolve s.files = .error e) : e.code = 1 := by
    refine code_bind (fun e wrong => ?_) (fun config e wrong => ?_) wrong
    · unfold GlobalOptions.writtenConfig at wrong
      split at wrong <;> exact code_mapError (fun _ => rfl) wrong
    · exact code_then (fun e wrong => code_mapError (fun _ => rfl) wrong) wrong
  have opening (config : Config) (e : Failure)
      (wrong : Config.openIn config i.options.projectDir s.files = .error e) : e.code = 1 := by
    refine code_bind (fun e wrong => code_mapError (fun _ => rfl) wrong) (fun opened e wrong => ?_) wrong
    exact code_then (fun e wrong => code_mapError (fun _ => rfl) wrong) wrong
  -- Nothing is opened before the whole configuration is known.
  rw [run, fails]
  exact ⟨code_bind config opening fails, rfl⟩

/-- A command with no options before it. -/
def Subcommand.plain (command : Subcommand) : Invocation :=
  ⟨⟨false, ".", none, none, none, none⟩, command⟩

/-- A directory with a database and other entries in it, where the program is started. -/
def projectTree (db : Database) (entries : List (ByteArray × Node)) : FileTree :=
  ⟨.directory (("strata.duckdb".toUTF8, .database db) :: entries), "/"⟩

def OpenProject.unconfigured (files : FileTree) (db : Database) : OpenProject :=
  ⟨⟨"./migrations", ⟨.directory files "./migrations", ⟨.standard⟩⟩⟩, "./strata.duckdb", db, files⟩

end SchemaMigration.Cli
