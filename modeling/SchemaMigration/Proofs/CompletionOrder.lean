import SchemaMigration.Proofs.Planning
import SchemaMigration.Proofs.Recording

/-! # Rollbacks in the order of completion

A plan goes by the times in the rows. Where every write happened later than the ones before it, that is
the order in which migrations were completed (`CompletedAfter`), whatever their ids are and whatever else
happened to them in between.
-/

namespace SchemaMigration

open World

section
variable {t : Tracker} {id : MigrationId} {es : List Event} {p q : Nat} {e f : Event}
variable {x y : Time.Reading}

theorem completes_of_completionTime? (last : completionTime? t id es = some p)
    (at_p : es[p]? = some e) :
    ∃ statement, e.write? t = some statement ∧ statement.completes id.text = true := by
  induction es generalizing p with
  | nil => cases last
  | cons first rest ih =>
      unfold completionTime? at last
      split at last
      · rename_i p' later
        cases last
        exact ih later at_p
      · split at last
        · rename_i completes
          cases last
          cases at_p
          exact (Option.any_eq_true _ _).mp completes
        · cases last

/-- Writes at later times happened later. -/
theorem position_of_time (ascending : (writeTimes t es).Pairwise (·.micros < ·.micros))
    (at_p : es[p]? = some e) (at_q : es[q]? = some f) (time : (e.write? t).bind Change.time? = some x)
    (time' : (f.write? t).bind Change.time? = some y) (before : x.micros ≤ y.micros) : p ≤ q := by
  rw [writeTimes, List.pairwise_filterMap, List.pairwise_iff_getElem] at ascending
  obtain ⟨short, rfl⟩ := List.getElem?_eq_some_iff.mp at_p
  obtain ⟨short', rfl⟩ := List.getElem?_eq_some_iff.mp at_q
  by_contra after
  have later := ascending q p short' short (Nat.lt_of_not_le after) y time' x time
  omega

end

def CompletedAfter (t : Tracker) (es : List Event) (a b : MigrationId) : Prop :=
  ∃ p q, completionTime? t a es = some p ∧ completionTime? t b es = some q ∧ q < p

theorem Told.completedAfter {t : Tracker} {es : List Event} {a b : MigrationId} {s s' : Stage}
    (told : Told t es a s) (told' : Told t es b s') (completed : s.status = .completed)
    (completed' : s'.status = .completed) (different : a ≠ b)
    (ascending : (writeTimes t es).Pairwise (·.micros < ·.micros))
    (first : (s.row a).finishedNotBefore (s'.row b) = true) : CompletedAfter t es a b := by
  obtain ⟨p, e, last, at_p, time⟩ := told.completion completed
  obtain ⟨q, f, last', at_q, time'⟩ := told'.completion completed'
  refine ⟨p, q, last, last', ?_⟩
  cases s with
  | inProgress | failed => cases completed
  | completed start finish checksum =>
  cases s' with
  | inProgress | failed => cases completed'
  | completed start' finish' checksum' =>
      have before : finish'.micros ≤ finish.micros := by
        rcases TrackingRow.finishedNotBefore_iff.mp first with ⟨later, -⟩ | ⟨same, -⟩
        · exact of_decide_eq_true later
        · have stamps : Timestamp.finite finish.micros = .finite finish'.micros :=
            Option.some.inj same
          exact Int.le_of_eq (Timestamp.finite.inj stamps).symm
      apply Nat.lt_of_le_of_ne (position_of_time ascending at_q at_p time' time before)
      -- One statement completes one migration.
      rintro rfl
      obtain ⟨statement, write, completes⟩ := completes_of_completionTime? last at_p
      obtain ⟨statement', write', completes'⟩ := completes_of_completionTime? last' at_p
      cases write.symm.trans write'
      apply different
      apply MigrationId.ext_text
      exact (Change.about_of_completes completes).symm.trans (Change.about_of_completes completes')

section
variable {rows : List TrackingRow} {records : List MigrationRecord} {id : MigrationId}

theorem mem_ids_of_completed (legible : Legible rows)
    (decoded : (completedRows rows).mapM Tracker.decodeRow = .ok records) :
    id ∈ records.map MigrationRecord.id ↔ stateIn rows id = .completed := by
  have among : id ∈ records.map MigrationRecord.id ↔
      ∃ row ∈ rows, row.status = some completedStatus ∧ row.id = some id.text := by
    rw [← List.mem_map_of_injective MigrationId.some_text_injective, ← ids_of_decoded decoded,
      List.mem_map]
    simp only [mem_completedRows, and_assoc]
  rw [among]
  constructor
  · rintro ⟨row, inside, completed, own⟩
    obtain ⟨r, -, holds⟩ := legible.holds inside
    have known : row.hasId id.text = true := TrackingRow.hasId_iff.mpr own
    obtain ⟨found, at_id⟩ : ∃ found, rows.find? (·.hasId id.text) = some found :=
      Option.isSome_iff_exists.mp (List.find?_isSome.mpr ⟨row, inside, known⟩)
    simp only [stateIn, at_id]
    rw [← legible.only at_id inside known]
    exact (holds.status_iff .completed).mp completed
  · intro completed
    unfold stateIn at completed
    split at completed
    · rename_i row found
      have inside := List.mem_of_find?_eq_some found
      obtain ⟨r, -, holds⟩ := legible.holds inside
      exact ⟨row, inside, (holds.status_iff .completed).mpr completed,
        TrackingRow.hasId_iff.mp (List.find?_some found)⟩
    · cases completed

end

/-- Where writes happened one after the other, the records that a plan goes by are in the order of
    completion, the last one first. -/
theorem completedAfter_of_decoded {t : Tracker} {es : List Event} {rows : List TrackingRow}
    {records : List MigrationRecord} (staged : Staged (Told t es) rows)
    (unique : (rows.map TrackingRow.id).Nodup)
    (ascending : (writeTimes t es).Pairwise (·.micros < ·.micros))
    (decoded : (completedRows rows).mapM Tracker.decodeRow = .ok records) :
    (records.map MigrationRecord.id).Pairwise (CompletedAfter t es) := by
  -- The order is shown on the column of ids, which the rows and the records share.
  let After (x y : Option String) : Prop :=
    ∀ a b : MigrationId, x = some a.text → y = some b.text → CompletedAfter t es a b
  have ordered : ((completedRows rows).map TrackingRow.id).Pairwise After := by
    have distinct := List.pairwise_map.mp (completedRows_unique unique)
    rw [List.pairwise_map]
    refine ((completedRows_sorted rows).and distinct).imp_of_mem ?_
    rintro row row' inside inside' ⟨first, different⟩ a b own own'
    rw [mem_completedRows] at inside inside'
    obtain ⟨id, s, rfl, told⟩ := staged row inside.1
    obtain ⟨id', s', rfl, told'⟩ := staged row' inside'.1
    obtain rfl : id = a := MigrationId.some_text_injective own
    obtain rfl : id' = b := MigrationId.some_text_injective own'
    have completed : s.status = .completed :=
      Stage.isAt_row.mp (TrackingRow.isAt_iff.mpr ⟨rfl, inside.2⟩)
    have completed' : s'.status = .completed :=
      Stage.isAt_row.mp (TrackingRow.isAt_iff.mpr ⟨rfl, inside'.2⟩)
    exact told.completedAfter told' completed completed' (fun same => different (same ▸ rfl))
      ascending first
  rw [ids_of_decoded decoded, List.pairwise_map] at ordered
  exact ordered.imp fun after => after _ _ rfl rfl

/-- The lower end of a strategy, if it has one, is in the source or in the table. -/
def RollbackStrategy.EndIsKnown (migrations : List Migration) (rows : List TrackingRow)
    (strategy : RollbackStrategy) : Prop :=
  ∀ lower, strategy = .downTo lower →
    (∃ m ∈ migrations, m.id = lower) ∨ ∃ row ∈ rows, row.id = some lower.text

/-- How planning ends, given the ids that are selected: `EndIsKnown` must hold, and then the selected
    migrations are planned if every one of them can be taken back, and none of them is if one cannot. -/
structure PlansWhole (migrations : List Migration) (rows : List TrackingRow)
    (strategy : RollbackStrategy) (selected : List MigrationId)
    (result : Except EngineError (List Migration)) : Prop where
  planned : ∀ plan, result = .ok plan → idsOf plan = selected ∧ ∀ m ∈ plan, m ∈ migrations
  unknown : ∀ lower, strategy = .downTo lower → ¬strategy.EndIsKnown migrations rows →
    result = .error (.notFound lower.text)
  whole : strategy.EndIsKnown migrations rows → ((∃ plan, result = .ok plan) ↔
    ∀ id ∈ selected, ∃ m ∈ migrations, m.id = id ∧ m.isReversible = true)
  refused : strategy.EndIsKnown migrations rows → ∀ e, result = .error e →
    ∃ id ∈ selected, (e = .notFound id.text ∧ ∀ m ∈ migrations, m.id ≠ id) ∨
      e = .irreversible id ∧ ∃ m ∈ migrations, m.id = id ∧ m.isReversible = false

namespace RollbackStrategy

variable {migrations : List Migration} {rows : List TrackingRow} {strategy : RollbackStrategy}

theorem endIsKnown_downTo {lower : MigrationId} :
    (downTo lower).EndIsKnown migrations rows ↔
      (migrations.any (·.id = lower) || rows.any (·.hasId lower.text)) = true := by
  simp [EndIsKnown]

theorem check_known (known : strategy.EndIsKnown migrations rows) :
    strategy.check migrations rows = .ok () := by
  cases strategy with
  | last | steps | all => rfl
  | downTo lower => exact if_pos (endIsKnown_downTo.mp known)

theorem plansWhole (distinct : (migrations.map Migration.id).Nodup) (rows : List TrackingRow)
    (strategy : RollbackStrategy) (completed : List MigrationId) :
    PlansWhole migrations rows strategy (strategy.select completed)
      (strategy.plan migrations rows completed) := by
  have goes_by_ids (known : strategy.EndIsKnown migrations rows) :
      strategy.plan migrations rows completed =
        (strategy.select completed).mapM (Runner.findReversible migrations) := by
    rw [plan, check_known known]
    rfl
  have unknown (lower : MigrationId) (same : strategy = .downTo lower)
      (strange : ¬strategy.EndIsKnown migrations rows) :
      strategy.plan migrations rows completed = .error (.notFound lower.text) := by
    subst same
    rw [plan, check, if_neg (strange ∘ endIsKnown_downTo.mpr)]
    rfl
  constructor
  · intro plan planned
    by_cases known : strategy.EndIsKnown migrations rows
    · rw [goes_by_ids known] at planned
      obtain ⟨ids, available⟩ := ids_of_planned planned
      exact ⟨ids, fun m inside => (available m inside).1⟩
    · obtain ⟨lower, same, -⟩ := Classical.not_forall.mp known |>.imp fun _ => Classical.not_imp.mp
      cases planned.symm.trans (unknown lower same known)
  · exact unknown
  · intro known
    rw [goes_by_ids known]
    exact planned_iff distinct
  · intro known e
    rw [goes_by_ids known]
    exact refused_of_planned

end RollbackStrategy

/-- After any history of operations that was begun where nothing was tracked, with writes at ever later
    times, a plan goes by the order of completion: the ids of the completed migrations have one order in
    which each was completed after the next (`CompletedAfter`), and a strategy selects the first one, a
    number of the first, all, or those after its lower end. -/
theorem plan_follows_completion (t : Tracker) (history : List (Source × Operation)) (w : World)
    (start : w.events = []) (untracked : w.database.Untracked t.table)
    (alone : ∀ step ∈ history, step.1.LeavesAlone t.table)
    (ascending : (writeTimes t (w.after t history).events).Pairwise (·.micros < ·.micros))
    (s : Source) (migrations : List Migration) (listed : s.list = .ok migrations)
    (strategy : RollbackStrategy) :
    let w' := w.after t history
    let rows := w'.database.trackingRows t.table
    let calm : World := { w' with faults := [] }
    ∃ order : List MigrationId,
      (∀ id, id ∈ order ↔ stateIn rows id = .completed) ∧
      order.Pairwise (CompletedAfter t w'.events) ∧
      let selected := match strategy with
        | .last => order.take 1
        | .steps n => order.take n
        | .all => order
        | .downTo lower => order.filter fun id => lower.text < id.text
      PlansWhole migrations rows strategy selected
        (calm.run (Runner.planRollback ⟨s, t⟩ strategy)).1 := by
  intro w' rows calm
  have chronicle : Chronicle t w w' :=
    (partsKeep_chronicle t w).history history alone (Chronicle.begins untracked)
  obtain ⟨n, es, leads, -, staged⟩ := chronicle.told
  have events : w'.events = es := by rw [leads.events, start, List.nil_append]
  have legible : Legible rows := staged.legible chronicle.unique
  obtain ⟨records, decoded⟩ := Tracker.decoded_of_decodes fun row inside =>
    legible.decodes row (mem_completedRows.mp inside).1
  obtain ⟨fs, plans⟩ := planRollback_reads (w := calm) rfl listed chronicle.reserved
    legible.decodes decoded strategy
  refine ⟨records.map MigrationRecord.id, fun id => mem_ids_of_completed legible decoded, ?_, ?_⟩
  · rw [← events] at staged
    exact completedAfter_of_decoded staged chronicle.unique ascending decoded
  · have whole := RollbackStrategy.plansWhole (Source.list_ascending listed).distinct rows strategy
      (records.map MigrationRecord.id)
    rw [plans]
    cases strategy <;> exact whole

/-- A migration with a smaller id is completed after another one, by a second try, and the last one of
    three is marked. -/
theorem plan_follows_completion_retried :
    let first : Migration := ⟨⟨"001", by decide⟩, none,
      .procedure "a" [.failed (.execution "no space"), .done], some (.procedure "d" [])⟩
    let second := Sample.second.withDown "e"
    let third := Sample.third.withDown "f"
    let s : Source := .registry [first, second, third]
    let t : Tracker := ⟨.standard⟩
    let history : List (Source × Operation) :=
      [(.registry [second], .run {}), (.registry [first], .run {}),
        (.registry [first], .retry "001"), (.registry [third], .markCompleted "003" ⟨true, false⟩)]
    let w := World.ticking .empty
    let w' := w.after t history
    let rows := w'.database.trackingRows t.table
    (w.events = [] ∧ w.database.Untracked t.table ∧
      (∀ step ∈ history, step.1.LeavesAlone t.table) ∧
      (writeTimes t w'.events).Pairwise (·.micros < ·.micros) ∧
      s.list = .ok [first, second, third]) ∧
    ∃ order : List MigrationId, (∀ id, id ∈ order ↔ stateIn rows id = .completed) ∧
      order.Pairwise (CompletedAfter t w'.events) ∧
      PlansWhole [first, second, third] rows (.steps 2) (order.take 2)
        (({ w' with faults := [] } : World).run (Runner.planRollback ⟨s, t⟩ (.steps 2))).1 := by
  intro first second third s t history w w' rows
  have listed : s.list = .ok [first, second, third] := inOrder_of_ascending (by decide)
  have single (m : Migration) (silent : m.isSilent = true) :
      (Source.registry [m]).LeavesAlone t.table := by
    have alone : (Source.registry [m]).list = .ok [m] :=
      inOrder_of_ascending (List.pairwise_singleton _ _)
    exact Source.leavesAlone_silent alone (List.forall_mem_singleton.mpr silent) t.table
  have alone : ∀ step ∈ history, step.1.LeavesAlone t.table := by
    simp only [history, List.mem_cons, List.not_mem_nil, or_false]
    rintro step (rfl | rfl | rfl | rfl) <;> exact single _ (by decide)
  have ascending : (writeTimes t w'.events).Pairwise (·.micros < ·.micros) := by decide +kernel
  exact ⟨⟨rfl, .inl rfl, alone, ascending, listed⟩,
    plan_follows_completion t history w rfl (.inl rfl) alone ascending s _ listed (.steps 2)⟩

end SchemaMigration
