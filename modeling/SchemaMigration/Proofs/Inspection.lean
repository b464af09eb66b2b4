import SchemaMigration.Proofs.Preparation

/-! # Looking without touching

The status, the validation, a rollback plan and the dry runs of a run and of a rollback share their code
with operations that write. What they can ask for at all is settled on their text, so that what follows
from it holds in every world and whichever calls fail: they look at the database (`LooksOnly`), and
nothing is made, changed or executed.
-/

namespace SchemaMigration

/-- An event of looking: a call that asks whether a relation exists or for rows, or a note. -/
def Event.IsLook : Event → Prop
  | .called c _ => c.method = .relationExists ∨ c.method = .queryRows
  | .performed .. => False
  | .noted .. => True

namespace World

variable {w w' : World} {α : Type}

/-- `w'` comes after `w` with the database as it was, no procedure executed, and nothing but looks in
    between. -/
structure LooksOnly (w w' : World) : Prop where
  database : w'.database = w.database
  executions : w'.executions = w.executions
  events : ∃ es, w'.events = w.events ++ es ∧ ∀ e ∈ es, e.IsLook

namespace LooksOnly

theorem refl (w : World) : w.LooksOnly w :=
  ⟨rfl, rfl, [], (List.append_nil _).symm, fun _ inside => absurd inside List.not_mem_nil⟩

theorem trans {w'' : World} (first : w.LooksOnly w') (second : w'.LooksOnly w'') :
    w.LooksOnly w'' := by
  obtain ⟨es, seen, looks⟩ := first.events
  obtain ⟨fs, seen', looks'⟩ := second.events
  refine ⟨second.database.trans first.database, second.executions.trans first.executions, es ++ fs,
    by rw [seen', seen, List.append_assoc], fun e inside => ?_⟩
  rcases List.mem_append.mp inside with inside | inside
  · exact looks e inside
  · exact looks' e inside

end LooksOnly

theorem respond_looks {r : Request} (only : r.IsRead) (w : World) :
    w.LooksOnly (respond r w).2 := by
  have one (e : Event) (look : e.IsLook) : ∀ e' ∈ [e], e'.IsLook := fun e' inside =>
    List.mem_singleton.mp inside ▸ look
  cases r with
  | note level text => exact ⟨rfl, rfl, _, rfl, one (.noted level text) trivial⟩
  | readClock | perform => exact only.elim
  | call c =>
      -- A call that was struck looks no less than one that was answered.
      have kept : (w.call c).2.database = w.database :=
        database_of_asks (x := Engine.call c) (Engine.asks_call only) w
      refine ⟨kept, rfl, _, (w.call_leads c).events, one _ ?_⟩
      cases c with
      | relationExists => exact .inl rfl
      | select => exact .inr rfl
      | createSchema | createTable | dropTable | change | batch => exact only.elim

/-- What asks for nothing but reads `LooksOnly`, whatever fails on the way. -/
theorem looks_of_asks {x : Engine α} (asks : Engine.Asks Request.IsRead x) (w : World) :
    w.LooksOnly (w.run x).2 :=
  Script.Asks.keeps (fun _ w' only so_far => LooksOnly.trans so_far (respond_looks only w')) asks
    (LooksOnly.refl w)

end World

namespace Runner

/-- What a dry rollback does with its plan. -/
def foretell (plan : List Migration) : Engine RollbackReport := do
  if plan.isEmpty then
    Engine.note .info "Nothing to roll back"
    return ⟨[], [], true⟩
  plan.forM fun m => Engine.note .info ("Would roll back " ++ m.id.text)
  return ⟨[], idsOf plan, true⟩

theorem rollback_eq_dry (r : Runner) (strategy : RollbackStrategy) :
    r.rollback strategy true = r.planRollback strategy >>= foretell := rfl

theorem asks_foretell {P : Request → Prop} (note : ∀ level text, P (.note level text))
    (plan : List Migration) : Engine.Asks P (foretell plan) := by
  unfold foretell
  split
  · exact (Engine.asks_note (note _ _)).bind fun _ => Engine.asks_pure _
  · exact (Engine.asks_forM fun _ _ => Engine.asks_note (note _ _)).bind fun _ => Engine.asks_pure _

theorem asks_dryRollback {P : Request → Prop} {r : Runner} (h : AdmitsLooking P r.tracker)
    (strategy : RollbackStrategy) : Engine.Asks P (r.rollback strategy true) :=
  (h.planRollback r.source strategy).bind (asks_foretell h.note)

theorem foretell_result (w : World) (plan : List Migration) :
    (w.run (foretell plan)).1 = .ok ⟨[], idsOf plan, true⟩ := by
  cases plan with
  | nil => rfl
  | cons m rest =>
      obtain ⟨w', told⟩ := w.run_notes .info
        ((m :: rest).map fun m => "Would roll back " ++ m.id.text)
      rw [List.forM_eq_forM, List.forM_map] at told
      exact congrArg Prod.fst (World.run_bind_ok told _)

/-- A dry rollback comes to the plan, or it fails as the planning does. -/
theorem dryRollback_result (r : Runner) (strategy : RollbackStrategy) (w : World) :
    (w.run (r.rollback strategy true)).1 =
      (w.run (r.planRollback strategy)).1.map fun plan => ⟨[], idsOf plan, true⟩ := by
  rw [rollback_eq_dry]
  rcases plans : w.run (r.planRollback strategy) with ⟨e | plan, w'⟩
  · rw [World.run_bind_error plans]
    rfl
  · rw [World.run_bind_ok plans, foretell_result]
    rfl

end Runner

/-- Operations that read never write: in every world, with any failures armed, they look at the
    database and leave it exactly as it was, whether they succeed or not. A dry rollback comes to the
    ids of the plan in their order, or to the error of the planning. -/
theorem readers_look_only (r : Runner) (w : World) :
    w.LooksOnly (w.run r.status).2 ∧
    w.LooksOnly (w.run r.validate).2 ∧
    (∀ o : RunOptions, w.LooksOnly (w.run (r.run { o with dryRun := true })).2) ∧
    ∀ strategy : RollbackStrategy,
      w.LooksOnly (w.run (r.planRollback strategy)).2 ∧
      w.LooksOnly (w.run (r.rollback strategy true)).2 ∧
      (w.run (r.rollback strategy true)).1 =
        (w.run (r.planRollback strategy)).1.map fun plan => ⟨[], idsOf plan, true⟩ := by
  have reads := admitsLooking_read r.tracker
  refine ⟨World.looks_of_asks (reads.status r.source) w,
    World.looks_of_asks (reads.validate r.source) w, fun o => ?_, fun strategy => ⟨?_, ?_, ?_⟩⟩
  · exact World.looks_of_asks (Runner.asks_dryRun reads rfl) w
  · exact World.looks_of_asks (reads.planRollback r.source strategy) w
  · exact World.looks_of_asks (Runner.asks_dryRollback reads strategy) w
  · exact r.dryRollback_result strategy w

end SchemaMigration
