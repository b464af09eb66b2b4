import SchemaMigration.Proofs.Commands
import SchemaMigration.Proofs.Marking

/-! # Consent

What an operator has to say before the tracking table is changed. Two commands mark migrations without
running them, and both ask for all consent first. What they may do is told by the `MarkRequest` and by
the lines that their questions take.
-/

namespace SchemaMigration

/-- A call that can take a tracking table away: it drops a table, or sends the statements of a
    migration. -/
def Call.MayDrop : Call → Prop
  | .dropTable _ | .batch _ => True
  | .relationExists _ | .createSchema _ | .createTable _ | .select .. | .change .. => False

/-- A request that executes nothing and takes away no table, except by a call of a kind. -/
def Request.DropsOnly (Q : Call → Prop) : Request → Prop
  | .call c => c.MayDrop → Q c
  | .perform .. => False
  | .readClock | .note .. => True

theorem admitsSettling_dropsOnly (Q : Call → Prop) (t : Tracker) :
    AdmitsSettling (Request.DropsOnly Q) t where
  select _ := False.elim
  relationExists := False.elim
  note _ _ := trivial
  createSchema _ := False.elim
  createTable := False.elim
  clock := trivial
  insertCompleted _ _ _ := False.elim
  settle _ _ _ := False.elim

theorem Engine.asks_anything {α : Type} (x : Engine α) : Asks (fun _ => True) x := by
  unfold Asks
  induction x.run with
  | done a => trivial
  | request r next ih => exact ⟨trivial, ih⟩

theorem admitsSettling_anything (t : Tracker) : AdmitsSettling (fun _ => True) t where
  select _ := trivial
  relationExists := trivial
  note _ _ := trivial
  createSchema _ := trivial
  createTable := trivial
  clock := trivial
  insertCompleted _ _ _ := trivial
  settle _ _ _ := trivial

theorem World.respond_events (r : Request) (w : World) :
    ∃ es, (respond r w).2.events = w.events ++ es ∧
      ∀ c answer, .called c answer ∈ es → r = .call c ∨ ∃ id d a, r = .perform id d a := by
  cases r with
  | call c =>
      refine ⟨_, (w.call_leads c).events, fun c' answer added => .inl ?_⟩
      cases List.mem_singleton.mp added
      rfl
  | perform id d a =>
      obtain ⟨es, -, leads⟩ := w.perform_leads id d a
      exact ⟨_, leads.events, fun _ _ _ => .inr ⟨id, d, a, rfl⟩⟩
  | readClock => exact ⟨[], (List.append_nil _).symm, fun _ _ added => nomatch added⟩
  | note level text =>
      refine ⟨[.noted level text], rfl, fun c answer added => ?_⟩
      cases List.mem_singleton.mp added

theorem World.respond_on_record {e : Event} {w : World} (r : Request) (known : e ∈ w.events) :
    e ∈ (respond r w).2.events := by
  obtain ⟨es, grows, -⟩ := respond_events r w
  rw [grows]
  exact List.mem_append_left es known

theorem World.call_on_record {α : Type} (w : World) (c : Call) (f : c.Result → Engine α) :
    .called c (w.call c).1 ∈ (w.run (Engine.call c >>= f)).2.events := by
  have called : .called c (w.call c).1 ∈ (w.call c).2.events := by
    rw [(w.call_leads c).events]
    exact List.mem_append_right _ List.mem_cons_self
  rw [run_bind, run_call]
  cases (w.call c).1.mapError EngineError.database with
  | error e => exact called
  | ok answer =>
      exact Script.Asks.keeps (I := fun w' : World => _ ∈ w'.events)
        (fun r _ _ known => respond_on_record r known) (Engine.asks_anything (f answer)) called

namespace Runner

open Engine

theorem markCompleted_asks {P : Request → Prop} {r : Runner} (h : AdmitsSettling P r.tracker)
    (id : String) (consent : Consent) : Engine.Asks P (r.markCompleted id consent) := by
  unfold markCompleted
  cases consent.isGiven
  · exact asks_throw _
  · refine (asks_ofExcept _).bind fun migrations => h.ensure.bind fun _ =>
      (h.markTarget migrations id).bind fun target => (h.state _).bind fun state => ?_
    split
    · exact (asks_note (h.note _ _)).bind fun _ => asks_pure _
    · exact (h.forceComplete _ _).bind fun _ => (asks_note (h.note _ _)).bind fun _ => asks_pure _

theorem dropAndRecreate_asks {P : Request → Prop} {r : Runner} (h : AdmitsMaking P r.tracker)
    (drops : P (.call (.dropTable r.tracker.table))) (consent : DropConsent) :
    Engine.Asks P (r.dropAndRecreate consent) := by
  unfold dropAndRecreate
  split
  · exact asks_throw _
  · exact (asks_call drops).bind fun _ => h.ensure.bind fun _ => asks_note (h.note _ _)

theorem dropAndRecreate_named {r : Runner} {consent : DropConsent} (confirmed : consent.confirmed = true)
    (named : consent.tableName = r.tracker.table.text) : r.dropAndRecreate consent = r.tracker.reset := by
  simp only [dropAndRecreate, confirmed, named, ne_eq, not_true_eq_false, decide_false, Bool.not_true,
    Bool.or_false, Bool.false_eq_true, if_false]

theorem dropAndRecreate_misnamed {r : Runner} {consent : DropConsent}
    (misnamed : consent.tableName ≠ r.tracker.table.text) :
    r.dropAndRecreate consent = throw (.confirmationRequired .dropAndRecreate) := by
  simp only [dropAndRecreate, misnamed, ne_eq, not_false_eq_true, decide_true, Bool.or_true, if_true]
  rfl

end Runner

namespace Cli

def dropQuestion (table : String) : String :=
  "This deletes all migration history in " ++ table ++ "." ++ "\n" ++
    ("Type the table name (" ++ table ++ ") to confirm: ")

/-- A request to mark migrations, as far as consent is concerned. -/
structure MarkRequest where
  drop : Bool
  confirmTable : Option String
  force : Bool
  question : String

def Subcommand.markRequest? : Subcommand → Option MarkRequest
  | markCompleted id force => some ⟨false, none, force, markQuestion id⟩
  | markAllCompleted includeFailed includeInProgress all drop confirmTable force =>
    some ⟨drop, confirmTable, force, markAllQuestion (.ofSwitches includeFailed includeInProgress all)⟩
  | _ => none

namespace MarkRequest

/-- Whether the name of the table is asked for. -/
def asksName (r : MarkRequest) : Bool :=
  r.drop && r.confirmTable.isNone

/-- The name of the table that is acknowledged: as an option says, or else on the first line. -/
def acknowledged (r : MarkRequest) (first : List UInt8) : Except ReadFault String :=
  match r.confirmTable with
  | some name => .ok name
  | none => answerOf first

/-- Whether the question of the request is put. It is not when the name of the table was asked for and
    cannot be read. -/
def asksToMark (r : MarkRequest) (first : List UInt8) : Bool :=
  !r.force && (!r.asksName || (answerOf first).toBool)

/-- The line that answers the question of the request. -/
def markLine (r : MarkRequest) (first second : List UInt8) : List UInt8 :=
  if r.asksName then second else first

/-- There is consent to mark: the operator asked not to be asked, or `SaysYes` on the line that answers. -/
def Consents (r : MarkRequest) (first second : List UInt8) : Prop :=
  r.force = true ∨ SaysYes (r.markLine first second)

/-- There is all the consent that is needed: `Consents` to mark, and by name where the table is to be
    dropped. -/
structure Given (r : MarkRequest) (table : String) (first second : List UInt8) : Prop where
  consents : r.Consents first second
  names : r.drop = true → r.acknowledged first = .ok table

/-- What is asked, in order. -/
def questions (r : MarkRequest) (table : String) (first : List UInt8) : String :=
  (if r.asksName then dropQuestion table else "") ++ if r.asksToMark first then yesNo r.question else ""

/-- The input that is still to be read when all has been asked. -/
def unread (r : MarkRequest) (input first left rest : List UInt8) : List UInt8 :=
  if r.asksName then if r.asksToMark first then rest else left
  else if r.asksToMark first then left else input

/-- Asks for consent to drop a table, if it is to be dropped. -/
def askName (r : MarkRequest) (table : String) : Command (Option DropConsent) :=
  if r.drop then some <$> askDropConsent table r.confirmTable else pure none

def ask (r : MarkRequest) (table : String) : Command (Option DropConsent × Consent) := do
  let dropConsent? ← r.askName table
  let consent ← askConsent r.force r.question
  return (dropConsent?, consent)

end MarkRequest

/-- What a command that marks migrations does with the consent it has. -/
def Subcommand.mark (p : Project) (dropConsent? : Option DropConsent) (consent : Consent) :
    Subcommand → Command Unit
  | markCompleted id _ => do
    if ← Command.engine (p.runner.markCompleted id consent) then
      Command.line ("Marked " ++ id ++ " as completed")
    else Command.line (id ++ " is already completed")
  | markAllCompleted includeFailed includeInProgress all _ _ _ => do
    if let some dropConsent := dropConsent? then p.dropAndRecreate dropConsent
    let summary ← Command.engine
      (p.runner.markAllCompleted (.ofSwitches includeFailed includeInProgress all) consent)
    Command.lines summary.lines
  | _ => pure ()

theorem Subcommand.run_eq {c : Subcommand} {r : MarkRequest} (asked : c.markRequest? = some r)
    (p : Project) : c.run p =
      r.ask p.trackingTable >>= fun consents => c.mark p consents.1 consents.2 := by
  cases c with
  | markCompleted id force =>
      cases asked
      simp only [MarkRequest.ask, MarkRequest.askName, Bool.false_eq_true, if_false, bind_assoc, pure_bind]
      rfl
  | markAllCompleted includeFailed includeInProgress all drop confirmTable force =>
      cases asked
      simp only [MarkRequest.ask, MarkRequest.askName, bind_assoc, pure_bind]
      cases drop <;> rfl
  | _ => cases asked

/-- How a part of a command ends that decides on a condition: well, with a value that fits, where the
    condition is met, and with exit code 1 where it is not. -/
inductive Decides {α : Type} (met : Prop) (fits : α → Prop) : Except Failure α → Prop
  | granted (a : α) (holds : met) (right : fits a) : Decides met fits (.ok a)
  | refused (e : Failure) (code : e.code = 1) (fails : ¬met) : Decides met fits (.error e)

variable {st : Session} {line rest : List UInt8}

theorem confirm_ends (question : String) (first : FirstLine st.input line rest) :
    ∃ st', (Command.confirm question).run st =
        (((answerOf line).mapError fun fault => .report (unreadableAnswer fault)).map isYes, st') ∧
      st.Asked (yesNo question) rest st' := by
  obtain ⟨st', asks, asked⟩ := Command.ask_ends (yesNo question) st first
  refine ⟨st', ?_, asked⟩
  rw [Command.confirm, Command.run_map, asks]

/-- A question for consent takes one line, and none where the operator asked not to be asked. There is
    consent in the second case, and else if the line says yes. -/
theorem askConsent_ends (force : Bool) (question : String) (first : FirstLine st.input line rest) :
    ∃ result more st', (askConsent force question).run st = (result, st') ∧
      st.Asked ((if force then "" else yesNo question) ++ more) (if force then st.input else rest) st' ∧
      Decides (force = true ∨ SaysYes line) (·.isGiven = true) result := by
  cases force with
  | true => exact ⟨.ok .ofForce, "", st, rfl, .refl st, .granted _ (.inl rfl) rfl⟩
  | false =>
      obtain ⟨st', confirms, asked⟩ := confirm_ends question first
      have silent : st.Asked (yesNo question ++ "") rest st' := by rwa [String.append_empty]
      simp only [askConsent, Bool.false_eq_true, if_false, false_or]
      cases answered : answerOf line with
      | error fault =>
          rw [answered] at confirms
          refine ⟨_, "", st', Command.run_bind_error confirms _, silent, .refused _ rfl fun yes => ?_⟩
          obtain ⟨answer, other, -⟩ := saysYes_iff.mp yes
          cases answered.symm.trans other
      | ok answer =>
          rw [answered] at confirms
          cases yes : isYes answer with
          | true =>
              refine ⟨.ok .ofAnswer, "", st', ?_, silent,
                .granted _ (saysYes_iff.mpr ⟨answer, answered, yes⟩) rfl⟩
              rw [Command.run_bind_ok confirms, yes]
              rfl
          | false =>
              refine ⟨.error (.exit abortedCode), "Aborted\n", st'.write "Aborted\n", ?_,
                ⟨asked.input, ?_, asked.world⟩, .refused _ rfl fun yes' => ?_⟩
              · rw [Command.run_bind_ok confirms, yes]
                rfl
              · rw [← String.append_assoc, ← asked.output]
                rfl
              · obtain ⟨other, same, yes'⟩ := saysYes_iff.mp yes'
                obtain rfl : answer = other := Except.ok.inj (answered.symm.trans same)
                cases yes.symm.trans yes'

theorem askDropConsent_ends (table : String) (first : FirstLine st.input line rest) :
    ∃ st', (askDropConsent table none).run st =
        (((answerOf line).mapError fun fault => .report (unreadableAnswer fault)).map (⟨true, ·⟩), st') ∧
      st.Asked (dropQuestion table) rest st' := by
  let warning := "This deletes all migration history in " ++ table ++ "."
  let warned := st.write (warning ++ "\n")
  have warns : (Command.line warning).run st = (.ok (), warned) := rfl
  have told : st.Asked (warning ++ "\n") st.input warned := ⟨rfl, rfl, rfl⟩
  obtain ⟨st', asks, asked⟩ :=
    Command.ask_ends ("Type the table name (" ++ table ++ ") to confirm: ") warned first
  refine ⟨st', ?_, told.trans asked⟩
  simp only [askDropConsent]
  rw [Command.run_bind_ok warns, bind_pure_comp, Command.run_map, asks]

namespace MarkRequest

variable (r : MarkRequest) (table : String) {first left second : List UInt8}

/-- What dropping was consented to: nothing, or a table by the name that was acknowledged. -/
inductive DropAnswer (first : List UInt8) : Option DropConsent → Prop
  | kept (keeps : r.drop = false) : DropAnswer first none
  | named (name : String) (drops : r.drop = true) (same : r.acknowledged first = .ok name) :
      DropAnswer first (some ⟨true, name⟩)

/-- The name of a table that is to be dropped can be read. -/
def NameReadable (first : List UInt8) : Prop :=
  r.drop = true → ∃ name, r.acknowledged first = .ok name

theorem askName_ends (line : FirstLine st.input first left) :
    ∃ result st', (r.askName table).run st = (result, st') ∧
      st.Asked (if r.asksName then dropQuestion table else "") (if r.asksName then left else st.input) st' ∧
      Decides (r.NameReadable first) (r.DropAnswer first) result := by
  rcases r with ⟨drop, confirmTable, force, question⟩
  cases drop with
  | false => exact ⟨.ok none, st, rfl, .refl st, .granted none nofun (.kept rfl)⟩
  | true =>
      cases confirmTable with
      | some name =>
          exact ⟨.ok (some ⟨true, name⟩), st, rfl, .refl st,
            .granted _ (fun _ => ⟨name, rfl⟩) (.named name rfl rfl)⟩
      | none =>
          obtain ⟨st', asks, asked⟩ := askDropConsent_ends table line
          refine ⟨_, st', (Command.run_map ..).trans (by rw [asks]), asked, ?_⟩
          cases answered : answerOf first with
          | error fault =>
              refine .refused _ rfl fun readable => ?_
              obtain ⟨name, same⟩ := readable rfl
              cases answered.symm.trans same
          | ok name => exact .granted _ (fun _ => ⟨name, answered⟩) (.named name rfl answered)

theorem asks_unreadable (unreadable : ¬r.NameReadable first) :
    r.asksName = true ∧ r.asksToMark first = false := by
  unfold NameReadable acknowledged at unreadable
  unfold asksToMark asksName
  cases drops : r.drop with
  | false => exact (unreadable fun drop => nomatch drops.symm.trans drop).elim
  | true =>
      cases named : r.confirmTable with
      | some name => exact (unreadable fun _ => ⟨name, by rw [named]⟩).elim
      | none =>
          cases answered : answerOf first with
          | ok name => exact (unreadable fun _ => ⟨name, by rw [named, answered]⟩).elim
          | error fault => cases r.force <;> exact ⟨rfl, rfl⟩

theorem asks_readable (readable : r.NameReadable first) : r.asksToMark first = !r.force := by
  unfold NameReadable acknowledged at readable
  unfold asksToMark asksName
  cases drops : r.drop with
  | false => cases r.force <;> rfl
  | true =>
      obtain ⟨name, same⟩ := readable drops
      cases named : r.confirmTable with
      | some _ => cases r.force <;> rfl
      | none =>
          rw [named] at same
          simp only at same
          rw [same]
          cases r.force <;> rfl

/-- Asking for all consent reads the lines of the questions that are put, and nothing else happens. -/
theorem ask_ends (line : FirstLine st.input first left) (line' : FirstLine left second rest) :
    ∃ result more st', (r.ask table).run st = (result, st') ∧
      st.Asked (r.questions table first ++ more) (r.unread st.input first left rest) st' ∧
      Decides (r.NameReadable first ∧ r.Consents first second)
        (fun consents => r.DropAnswer first consents.1 ∧ consents.2.isGiven = true) result := by
  obtain ⟨named, st₁, names, told, decides⟩ := r.askName_ends table line
  unfold ask questions unread
  cases decides with
  | refused e code unreadable =>
      obtain ⟨asked, unasked⟩ := r.asks_unreadable unreadable
      refine ⟨.error e, "", st₁, Command.run_bind_error names _, ?_,
        .refused e code fun both => unreadable both.1⟩
      simp only [asked, unasked, if_true, Bool.false_eq_true, if_false, String.append_empty] at told ⊢
      exact told
  | granted dropConsent? readable fits =>
      -- The name takes a line only if it is asked for, so the next question may take either line.
      have next : FirstLine st₁.input (r.markLine first second) (if r.asksName then rest else left) := by
        rw [told.input, markLine]
        split
        · exact line'
        · exact line
      obtain ⟨result, more, st₂, asks, asked, decides⟩ := askConsent_ends r.force r.question next
      rw [Command.run_bind_ok names, r.asks_readable readable]
      have both := told.trans asked
      have consented : Decides (r.NameReadable first ∧ r.Consents first second)
          (fun consents => r.DropAnswer first consents.1 ∧ consents.2.isGiven = true)
          (result.map (dropConsent?, ·)) := by
        cases decides with
        | granted consent yes given => exact .granted _ ⟨readable, yes⟩ ⟨fits, given⟩
        | refused e code no => exact .refused e code fun both => no both.2
      refine ⟨_, more, st₂, ?_, ?_, consented⟩
      · rw [bind_pure_comp, Command.run_map, asks]
      · rw [← String.append_assoc, told.input] at both
        cases force : r.force <;> cases name : r.asksName <;> simpa [force, name] using both

end MarkRequest

/-- A table was dropped, as far as the database let it. -/
def Session.HasDropped (table : TableName) (st : Session) : Prop :=
  ∃ answer, .called (.dropTable table) answer ∈ st.world.events

theorem lasts_hasDropped (table : TableName) : Lasts (fun _ => True) (Session.HasDropped table) where
  write _ _ start := start
  writeError _ _ start := start
  respond _ r _ start := start.imp fun _ called => World.respond_on_record r called

theorem lasts_dropsOnly (Q : Call → Prop) :
    Lasts (Request.DropsOnly Q) fun st =>
      ∀ c answer, .called c answer ∈ st.world.events → c.MayDrop → Q c where
  write _ _ start := start
  writeError _ _ start := start
  respond st r kind start := by
    intro c answer recorded may
    obtain ⟨more, grows, new⟩ := World.respond_events r st.world
    change _ ∈ (World.respond r st.world).2.events at recorded
    rw [grows, List.mem_append] at recorded
    rcases recorded with old | added
    · exact start c answer old may
    · rcases new c answer added with rfl | ⟨id, d, a, rfl⟩
      · exact kind may
      · exact kind.elim

/-- No more input is read, and what was written stays. -/
structure Session.Continues (st st' : Session) : Prop where
  input : st'.input = st.input
  output : ∃ more, st'.output = st.output ++ more

theorem lasts_continues (st : Session) : Lasts (fun _ => True) st.Continues where
  write st' text h := by
    obtain ⟨more, grown⟩ := h.output
    exact ⟨h.input, more ++ text, by rw [← String.append_assoc, ← grown]; rfl⟩
  writeError _ _ h := ⟨h.input, h.output⟩
  respond _ _ _ h := ⟨h.input, h.output⟩

theorem Project.dropAndRecreate_misnamed (p : Project) {consent : DropConsent}
    (misnamed : consent.tableName ≠ p.trackingTable) (st : Session) :
    ∃ failure st', (p.dropAndRecreate consent).run st = (.error failure, st') ∧ failure.code = 1 ∧
      st'.world = st.world := by
  have refuses := p.runner.dropAndRecreate_misnamed misnamed
  unfold dropAndRecreate
  rw [refuses]
  have world := Command.engine_world (throw (.confirmationRequired .dropAndRecreate) : Engine Unit) st
  exact ⟨_, _, Command.run_bind_error rfl _, rfl, world⟩

theorem Project.dropAndRecreate_drops (p : Project) {consent : DropConsent}
    (confirmed : consent.confirmed = true) (named : consent.tableName = p.trackingTable) (st : Session) :
    ((p.dropAndRecreate consent).run st).2.HasDropped p.runner.tracker.table := by
  refine Command.holds_after_bind ?_ fun _ => (lasts_hasDropped _).line _
  rw [Session.HasDropped, Command.engine_world, Runner.dropAndRecreate_named confirmed named]
  exact ⟨_, st.world.call_on_record (.dropTable p.runner.tracker.table) _⟩

namespace Subcommand

variable (c : Subcommand) (p : Project) {consent : Consent}

theorem mark_keeps (dropConsent? : Option DropConsent) {P : Request → Prop} {I : Session → Prop}
    (lasts : Lasts P I) (settling : AdmitsSettling P p.runner.tracker) (given : consent.isGiven = true)
    (drops : dropConsent?.isSome = true → P (.call (.dropTable p.runner.tracker.table))) :
    Command.Keeps I (c.mark p dropConsent? consent) := by
  cases c with
  | markCompleted id force =>
      refine (lasts.engine (Runner.markCompleted_asks settling id consent)).bind fun changed => ?_
      cases changed
      · exact lasts.line _
      · exact lasts.line _
  | markAllCompleted includeFailed includeInProgress all drop confirmTable force =>
      have marks := (lasts.engine (Runner.markAllCompleted_asks
        (.ofSwitches includeFailed includeInProgress all) settling given)).bind fun summary =>
          lasts.lines summary.lines
      cases dropConsent? with
      | none => exact marks
      | some dropConsent =>
          have empties := Runner.dropAndRecreate_asks settling.toAdmitsMaking (drops rfl) dropConsent
          exact ((lasts.engine empties).bind fun _ => lasts.line _).bind fun _ => marks
  | _ => exact fun _ start => start

variable {c} {r : MarkRequest} (consent) (dropConsent : DropConsent) (st : Session)
variable (asked : c.markRequest? = some r) (drops : r.drop = true)
include asked drops

theorem mark_misnamed (misnamed : dropConsent.tableName ≠ p.trackingTable) :
    ∃ failure st', (c.mark p (some dropConsent) consent).run st = (.error failure, st') ∧
      failure.code = 1 ∧ st'.world = st.world := by
  cases c with
  | markCompleted id force =>
      cases asked
      cases drops
  | markAllCompleted includeFailed includeInProgress all drop confirmTable force =>
      obtain ⟨failure, st', refuses, code, world⟩ := p.dropAndRecreate_misnamed misnamed st
      exact ⟨failure, st', Command.run_bind_error refuses _, code, world⟩
  | _ => cases asked

theorem mark_drops (given : consent.isGiven = true) (confirmed : dropConsent.confirmed = true)
    (named : dropConsent.tableName = p.trackingTable) :
    ((c.mark p (some dropConsent) consent).run st).2.HasDropped p.runner.tracker.table := by
  cases c with
  | markCompleted id force =>
      cases asked
      cases drops
  | markAllCompleted includeFailed includeInProgress all drop confirmTable force =>
      exact Command.holds_after_bind (p.dropAndRecreate_drops confirmed named st) fun _ =>
        mark_keeps (.markAllCompleted includeFailed includeInProgress all drop confirmTable force) p none
          (lasts_hasDropped _) (admitsSettling_anything _) given nofun
  | _ => cases asked

end Subcommand

/-- The consent to drop a table that a request needs, if any. -/
def MarkRequest.dropConsent? (r : MarkRequest) (table : String) : Option DropConsent :=
  if r.drop then some ⟨true, table⟩ else none

/-- How a command that marks migrations ends: refused for want of consent and with nothing done, or
    carried out with all of it. -/
inductive MarkEnds (c : Subcommand) (p : Project) (r : MarkRequest) (first second : List UInt8)
    (w : World) : Except Failure Unit → Session → Prop
  | refused (failure : Failure) (after : Session) (code : failure.code = 1)
      (lacks : ¬r.Given p.trackingTable first second) (same : after.world = w) :
      MarkEnds c p r first second w (.error failure) after
  | carriedOut (consent : Consent) (st : Session) (given : r.Given p.trackingTable first second)
      (consented : consent.isGiven = true) (same : st.world = w) :
      MarkEnds c p r first second w ((c.mark p (r.dropConsent? p.trackingTable) consent).run st).1
        ((c.mark p (r.dropConsent? p.trackingTable) consent).run st).2

namespace Subcommand

variable {c : Subcommand} {r : MarkRequest} (asked : c.markRequest? = some r) (p : Project)
variable (st : Session) {first left second rest : List UInt8}
include asked

theorem mark_ends {consent : Consent} {dropConsent? : Option DropConsent}
    (consented : consent.isGiven = true) (yes : r.Consents first second)
    (dropAnswer : r.DropAnswer first dropConsent?) :
    MarkEnds c p r first second st.world ((c.mark p dropConsent? consent).run st).1
      ((c.mark p dropConsent? consent).run st).2 := by
  cases dropAnswer with
  | kept keeps =>
      have needed : r.dropConsent? p.trackingTable = none := by
        rw [MarkRequest.dropConsent?, keeps]
        rfl
      have given : r.Given p.trackingTable first second :=
        ⟨yes, fun drops => nomatch keeps.symm.trans drops⟩
      exact needed ▸ .carriedOut consent st given consented rfl
  | named name drops same =>
      by_cases named : name = p.trackingTable
      · have needed : r.dropConsent? p.trackingTable = some ⟨true, name⟩ := by
          rw [MarkRequest.dropConsent?, drops, named]
          rfl
        have given : r.Given p.trackingTable first second := ⟨yes, fun _ => same.trans (congrArg _ named)⟩
        exact needed ▸ .carriedOut consent st given consented rfl
      -- An answer by another name is refused by the engine, before it does anything.
      · obtain ⟨failure, after, ends, code, world⟩ :=
          mark_misnamed p consent ⟨true, name⟩ st asked drops named
        rw [ends]
        refine .refused failure after code (fun given => named ?_) world
        exact Except.ok.inj (same.symm.trans (given.names drops))

theorem run_ends (line : FirstLine st.input first left) (line' : FirstLine left second rest) :
    ∃ result after, (c.run p).run st = (result, after) ∧
      after.input = r.unread st.input first left rest ∧
      (∃ more, after.output = st.output ++ r.questions p.trackingTable first ++ more) ∧
      MarkEnds c p r first second st.world result after := by
  obtain ⟨consents, more, st₁, asks, told, decides⟩ := r.ask_ends p.trackingTable line line'
  rw [run_eq asked]
  cases decides with
  | refused failure code lacks =>
      refine ⟨.error failure, st₁, Command.run_bind_error asks _, told.input,
        ⟨more, by rw [told.output, String.append_assoc]⟩,
        .refused failure st₁ code (fun given => lacks ⟨fun drops => ?_, given.consents⟩) told.world⟩
      exact ⟨_, given.names drops⟩
  | granted consents met fits =>
      have continues := mark_keeps c p consents.1 (lasts_continues st₁) (admitsSettling_anything _)
        fits.2 (fun _ => trivial) st₁ ⟨rfl, "", String.append_empty.symm⟩
      have marks := mark_ends asked p st₁ fits.2 met.2 fits.1
      rw [told.world] at marks
      obtain ⟨grown, output⟩ := continues.output
      refine ⟨_, _, (Command.run_bind_ok asks _).trans Prod.mk.eta.symm, continues.input.trans told.input,
        ⟨more ++ grown, ?_⟩, marks⟩
      rw [output, told.output]
      simp only [String.append_assoc]

end Subcommand

/-- In a world without events, a command that marks migrations takes no table away but the tracking
    table, and that one where all consent is given and it is to be dropped. -/
theorem MarkEnds.drops {c : Subcommand} {p : Project} {r : MarkRequest} {first second : List UInt8}
    {w : World} {result : Except Failure Unit} {after : Session} (asked : c.markRequest? = some r)
    (fresh : w.events = []) (h : MarkEnds c p r first second w result after) :
    (∀ c' answer, .called c' answer ∈ after.world.events → c'.MayDrop →
      c' = .dropTable p.runner.tracker.table ∧ r.drop = true) ∧
    (after.HasDropped p.runner.tracker.table ↔ r.drop = true ∧ r.Given p.trackingTable first second) := by
  cases h with
  | refused failure after code lacks same =>
      have none_called (c' : Call) (answer : Except DbError c'.Result) :
          .called c' answer ∉ after.world.events := by
        rw [same, fresh]
        exact List.not_mem_nil
      exact ⟨fun c' answer called => (none_called c' answer called).elim,
        fun ⟨answer, called⟩ => (none_called _ answer called).elim, fun both => (lacks both.2).elim⟩
  | carriedOut consent st given consented same =>
      have only := Subcommand.mark_keeps c p (r.dropConsent? p.trackingTable)
        (lasts_dropsOnly fun c => c = .dropTable p.runner.tracker.table ∧ r.drop = true)
        (admitsSettling_dropsOnly _ _) consented (fun named _ => ⟨rfl, ?_⟩) st ?_
      · refine ⟨only, fun ⟨answer, called⟩ => ⟨(only _ answer called trivial).2, given⟩, fun both => ?_⟩
        have needed : r.dropConsent? p.trackingTable = some ⟨true, p.trackingTable⟩ := by
          rw [MarkRequest.dropConsent?, both.1]
          rfl
        rw [needed]
        exact Subcommand.mark_drops p consent _ st asked both.1 consented rfl rfl
      · unfold MarkRequest.dropConsent? at named
        split at named
        · assumption
        · cases named
      · intro c' answer called
        rw [same, fresh] at called
        cases called

/-- No row changes without consent. When a project is open, a command that marks migrations is refused
    with exit code 1 and without a single call unless consent is `Given`: the operator asked not to be
    asked or says yes, and names the tracking table where it is to be dropped. Only then is the table
    dropped, and no other one. Each question takes one line of the input and is answered by that line. -/
theorem marks_with_consent_only (i : Invocation) (s : Surroundings) (r : MarkRequest)
    (asked : i.command.markRequest? = some r) :
    (∀ failure, i.options.openProject s.files = .error failure →
      (i.run s).code = 1 ∧ (i.run s).files = s.files) ∧
    ∀ opened first left second rest, i.options.openProject s.files = .ok opened →
      FirstLine s.input first left → FirstLine left second rest →
      let table := opened.project.runner.tracker.table
      let after := (i.ending s opened).2
      (i.run s).files = opened.files.saveDatabase opened.databasePath after.world.database ∧
      (¬r.Given table.text first second → (i.run s).code = 1 ∧ after.world.events = [] ∧
        after.world.database = opened.database) ∧
      (after.world.database.trackingRows table ≠ opened.database.trackingRows table →
        r.Given table.text first second) ∧
      (∀ c answer, .called c answer ∈ after.world.events → c.MayDrop →
        c = .dropTable table ∧ r.drop = true) ∧
      ((∃ answer, .called (.dropTable table) answer ∈ after.world.events) ↔
        r.drop = true ∧ r.Given table.text first second) ∧
      after.input = r.unread s.input first left rest ∧
      ∃ more, (i.run s).output = r.questions table.text first ++ more := by
  refine ⟨fun failure fails => i.run_unopened fails, ?_⟩
  intro opened first left second rest opens line line' table after
  obtain ⟨code, output, files⟩ := Invocation.run_opened opens
  obtain ⟨result, session, ends, input, ⟨more, written⟩, verdict⟩ :=
    Subcommand.run_ends asked opened.project (i.session s opened.database) line line'
  have ending : i.ending s opened = (result, session) := ends
  have left_behind : after = session := congrArg Prod.snd ending
  obtain ⟨only, dropped⟩ := verdict.drops asked rfl
  rw [ending] at code output
  rw [left_behind]
  refine ⟨left_behind ▸ files, fun lacks => ?_, fun changed => ?_, only, dropped, input, more, ?_⟩
  · cases verdict with
    | refused failure _ code' _ same =>
        exact ⟨code.trans code', congrArg World.events same, congrArg World.database same⟩
    | carriedOut _ _ given => exact (lacks given).elim
  · cases verdict with
    | refused failure _ code' _ same => exact (changed (by rw [same]; rfl)).elim
    | carriedOut _ _ given => exact given
  · rw [output, written]
    rfl

/-- Typed with blanks around it and answered with a yes, the name of the table lets it be dropped, and
    both lines are used up. With a no in its second line, the same input changes nothing. -/
theorem marks_with_consent_only_typed :
    let db : Database :=
      .holding ⟨true, [⟨some "001", some "failed", some (.finite 6), some (.finite 7), none, none⟩]⟩
    let tree := projectTree db [("migrations".toUTF8, .directory [])]
    let i := (Subcommand.markAllCompleted false false false true none false).plain
    let opened := OpenProject.unconfigured tree db
    let answers (text : String) : Surroundings := ⟨tree, text.toUTF8.toList, fun _ => .ofMicros 0, false⟩
    let agrees := answers " __schema_migrations\t\r\nYES"
    let declines := answers "__schema_migrations\nno\nyes\n"
    i.options.openProject tree = .ok opened ∧
    (∃ answer, .called (.dropTable .standard) answer ∈ (i.ending agrees opened).2.world.events) ∧
    (i.ending agrees opened).2.input = [] ∧
    (i.run declines).code = 1 ∧ (i.ending declines opened).2.world.database = db ∧
    (i.ending declines opened).2.input = "yes\n".toUTF8.toList := by
  intro db tree i opened answers agrees declines
  have opens : i.options.openProject tree = .ok opened := by
    dsimp only [i, opened, tree, db]
    rfl
  let r : MarkRequest := ⟨true, none, false, markAllQuestion .pendingOnly⟩
  have asked : i.command.markRequest? = some r := rfl
  have agreed := (marks_with_consent_only i agrees r asked).2 opened
    " __schema_migrations\t\r\n".toUTF8.toList "YES".toUTF8.toList "YES".toUTF8.toList [] opens
    (FirstLine.iff_splitLine.mpr (by decide +kernel)) (FirstLine.iff_splitLine.mpr (by decide +kernel))
  have declined := (marks_with_consent_only i declines r asked).2 opened
    "__schema_migrations\n".toUTF8.toList "no\nyes\n".toUTF8.toList "no\n".toUTF8.toList
    "yes\n".toUTF8.toList opens
    (FirstLine.iff_splitLine.mpr (by decide +kernel)) (FirstLine.iff_splitLine.mpr (by decide +kernel))
  obtain ⟨-, -, -, -, drops, used, -⟩ := agreed
  obtain ⟨-, refuses, -, -, -, left, -⟩ := declined
  have given : r.Given "__schema_migrations" " __schema_migrations\t\r\n".toUTF8.toList
      "YES".toUTF8.toList := by
    refine ⟨.inr ⟨"YES", by decide +kernel, by decide⟩, fun _ => ?_⟩
    exact answerOf_eq_ok.mpr ⟨" __schema_migrations\t\r\n", by decide +kernel, by decide⟩
  have lacks : ¬r.Given "__schema_migrations" "__schema_migrations\n".toUTF8.toList
      "no\n".toUTF8.toList := by
    rintro ⟨force | ⟨text, holds, yes⟩, -⟩
    · cases force
    · have line : String.fromUTF8? "no\n".toUTF8.toList.toByteArray = some "no\n" := by decide +kernel
      obtain rfl : "no\n" = text := Option.some.inj (line.symm.trans holds)
      revert yes
      decide
  obtain ⟨code, -, same⟩ := refuses lacks
  refine ⟨opens, drops.mpr ⟨rfl, given⟩, used.trans ?_, code, same, left.trans ?_⟩
  · decide +kernel
  · decide +kernel

end Cli

end SchemaMigration
