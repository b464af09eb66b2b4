import SchemaMigration.Proofs.Convergence
import SchemaMigration.Proofs.Precedence

/-! # Composing runs

A run that is followed by another one comes to what a single run comes to that goes as far as both, for
targets as in `RunTarget.Splits`. The second takes what is pending anew from the table that the first has
left. What the first applied is the front of what was pending, so that the second goes on where the first
stopped; what is failed or in progress is never pending, and all of them pass over it.
-/

namespace SchemaMigration

/-- To go as far as the first target and then as far as the second is to go as far as the third. -/
inductive RunTarget.Splits (migrations : List Migration) : RunTarget → RunTarget → RunTarget → Prop
  | steps (n m : Nat) : Splits migrations (.steps n) (.steps m) (.steps (n + m))
  | all (t : MigrationId) (known : t ∈ idsOf migrations) : Splits migrations (.upTo t) .all .all
  | upTo (t u : MigrationId) (order : t ≤ u) (known : t ∈ idsOf migrations)
      (known' : u ∈ idsOf migrations) : Splits migrations (.upTo t) (.upTo u) (.upTo u)

theorem Ascending.split {migrations : List Migration} (h : Ascending migrations) (t : MigrationId) :
    (migrations.filter fun m => m.id ≤ t) ++ (migrations.filter fun m => !decide (m.id ≤ t)) =
      migrations := by
  induction migrations with
  | nil => rfl
  | cons m rest ih =>
      obtain ⟨first, later⟩ := List.pairwise_cons.mp h
      by_cases before : m.id ≤ t
      · simp [before, ih later]
      · have none_left : (rest.filter fun other => other.id ≤ t) = [] := by
          rw [List.filter_eq_nil_iff]
          intro other inside reached
          exact before (String.le_trans (String.not_lt.mp (String.lt_asymm (first other inside)))
            (of_decide_eq_true reached))
        have whole := ih later
        rw [none_left, List.nil_append] at whole
        simp [before, none_left, whole]

namespace RunTarget.Splits

variable {migrations pending : List Migration} {first second whole : RunTarget}
variable (h : Splits migrations first second whole)
include h

theorem aimed {target : RunTarget} (among : target ∈ [first, second, whole]) :
    ∀ id, target = .upTo id → id ∈ idsOf migrations := by
  rintro id rfl
  cases h with
  | steps n m => simp at among
  | all t known =>
      simp only [List.mem_cons, upTo.injEq, reduceCtorEq, List.not_mem_nil, or_false] at among
      exact among ▸ known
  | upTo t u order known known' =>
      simp only [List.mem_cons, upTo.injEq, List.not_mem_nil, or_false, or_self] at among
      rcases among with rfl | rfl
      · exact known
      · exact known'

/-- The second target takes from what the first one has left. -/
theorem select (ascending : Ascending pending) :
    ∃ rest, pending = first.select pending ++ rest ∧
      whole.select pending = first.select pending ++ second.select rest := by
  cases h with
  | steps n m => exact ⟨pending.drop n, (List.take_append_drop n pending).symm, List.take_add⟩
  | all t known =>
      have parts := (ascending.split t).symm
      exact ⟨_, parts, parts⟩
  | upTo t u order known known' =>
      refine ⟨_, (ascending.split t).symm, ?_⟩
      have within : Ascending (pending.filter fun m => m.id ≤ u) := ascending.filter _
      have front : ((pending.filter fun m => m.id ≤ u).filter fun m => m.id ≤ t) =
          pending.filter fun m => m.id ≤ t := by
        rw [List.filter_filter]
        apply List.filter_congr
        intro m _
        rw [Bool.and_eq_left_iff_imp, decide_eq_true_iff, decide_eq_true_iff]
        exact fun reached => String.le_trans reached order
      have back : ((pending.filter fun m => m.id ≤ u).filter fun m => !decide (m.id ≤ t)) =
          (pending.filter fun m => !decide (m.id ≤ t)).filter fun m => m.id ≤ u := by
        rw [List.filter_filter, List.filter_filter]
        exact List.filter_congr fun m _ => Bool.and_comm ..
      have parts := within.split t
      rw [front, back] at parts
      exact parts.symm

end RunTarget.Splits

theorem rowless_append {rows new : List TrackingRow} {migrations done rest : List Migration}
    (left : List.Forall₂ Migration.IsLeftAs done new) (distinct : (idsOf migrations).Nodup)
    (parts : rowless rows migrations = done ++ rest) : rowless (rows ++ new) migrations = rest := by
  have again : rowless (rows ++ new) migrations =
      (rowless rows migrations).filter fun m => !decide (m.id ∈ idsOf done) := by
    simp only [rowless, List.any_append, any_hasId_of_left left, Bool.not_or, List.filter_filter,
      Bool.and_comm]
  have pending : ((done ++ rest).map Migration.id).Nodup := by
    rw [← parts]
    exact (List.filter_sublist.map _).nodup distinct
  rw [again, parts]
  exact filter_rest pending

section
variable {s : Source} {o : RunOptions} {rows new : List TrackingRow}
variable {migrations done : List Migration} (h : Unbarred s o rows migrations)
variable (lenient : o.strictChecksums = false)
include h lenient

theorem Unbarred.append (left : List.Forall₂ Migration.IsLeftAs done new) :
    Unbarred s o (rows ++ new) migrations := by
  refine ⟨h.listed, fun row inside => ?_, h.clean.imp_right fun clean row inside => ?_, h.aimed,
    fun strict => ?_⟩
  · rcases List.mem_append.mp inside with old | added
    · exact h.readable row old
    · obtain ⟨m, -, own⟩ := isLeftAs_of_mem left added
      exact own.decodes
  · rcases List.mem_append.mp inside with old | added
    · exact clean row old
    · obtain ⟨m, -, own⟩ := isLeftAs_of_mem left added
      exact own.clean
  · cases lenient.symm.trans strict

end

namespace Runner

variable {r : Runner} {o : RunOptions} {w : World} {migrations : List Migration}

def ActsWell (r : Runner) (o : RunOptions) (w : World) : Prop :=
  ∀ es, (w.run (r.run o)).2.events = w.events ++ es → ∀ x ∈ executionsIn es, x.outcome = .ok ()

/-- A run that nothing bars and whose actions succeed applies all that its target selects. -/
theorem run_through (live : o.dryRun = false)
    (unbarred : Unbarred r.source o (w.database.trackingRows r.tracker.table) migrations)
    (reserved : w.database.Reserved r.tracker.table) (makeable : w.database.CanMake r.tracker.table)
    (alone : r.source.LeavesAlone r.tracker.table) (calm : w.faults = [])
    (acts : r.ActsWell o w) :
    let rows := w.database.trackingRows r.tracker.table
    let todo := o.target.select (rowless rows migrations)
    ∃ report new w', w.run (r.run o) = (.ok report, w') ∧ report.applied = idsOf todo ∧
      List.Forall₂ Migration.IsLeftAs todo new ∧
      w'.database.trackingRows r.tracker.table = rows ++ new ∧
      (∃ table, w'.database.Stores r.tracker.table table) ∧ w'.faults = [] := by
  intro rows todo
  obtain ⟨records, found⟩ := (prospect_eq_unbarred reserved).mpr unbarred
  have foretold := (prepare_foretold (r := r) o makeable calm).trans found
  obtain ⟨-, result, new, n, es, constrained, w', runs, course, stored, leads, -⟩ :=
    run_undisturbed live alone calm foretold
  rw [selection_eq unbarred.listed] at course
  have succeeded : ∀ x ∈ executionsIn es, x.outcome = .ok () := by
    apply acts es
    rw [runs]
    exact leads.events
  generalize executionsIn es = exs at course succeeded
  cases course with
  | whole =>
      exact ⟨_, _, w', runs, rfl, isLeftAs_appliedRows _ _ _, stored.trackingRows_eq, ⟨_, stored⟩,
        leads.faults calm⟩
  | halted before m after e parts =>
      have failed := succeeded (m.forward (.error e)) (List.mem_append_right _ List.mem_cons_self)
      cases failed

end Runner

/-- A run and another one after it, none of them strict, apply what a single run applies that goes as far
    as both, in the same order, and leave the same rows apart from times, when no call and no action
    fails. -/
theorem runs_compose (r : Runner) (o : RunOptions) (w : World) (migrations : List Migration)
    (first second whole : RunTarget) (live : o.dryRun = false) (lenient : o.strictChecksums = false)
    (listed : r.source.list = .ok migrations) (splits : RunTarget.Splits migrations first second whole)
    (reserved : w.database.Reserved r.tracker.table) (makeable : w.database.CanMake r.tracker.table)
    (readable : ∀ row ∈ w.database.trackingRows r.tracker.table, ∃ record, row.decode = .ok record)
    (clean : o.force = true ∨
      ∀ row ∈ w.database.trackingRows r.tracker.table, row.state.isDirty = false)
    (alone : r.source.LeavesAlone r.tracker.table) (calm : w.faults = []) :
    let ran (w : World) (target : RunTarget) := w.run (r.run { o with target })
    let acts (w : World) (target : RunTarget) := r.ActsWell { o with target } w
    let timeless (w : World) := (w.database.trackingRows r.tracker.table).map TrackingRow.timeless
    let between := (ran w first).2
    acts w first → acts between second → acts w whole →
      ∃ report₁ report₂ report, (ran w first).1 = .ok report₁ ∧ (ran between second).1 = .ok report₂ ∧
        (ran w whole).1 = .ok report ∧ report₁.applied ++ report₂.applied = report.applied ∧
        timeless (ran between second).2 = timeless (ran w whole).2 := by
  intro ran acts timeless between acts_first acts_second acts_whole
  have unbarred (target : RunTarget) (among : target ∈ [first, second, whole]) :
      Unbarred r.source { o with target } (w.database.trackingRows r.tracker.table) migrations := by
    refine ⟨listed, readable, clean, splits.aimed among, fun strict => ?_⟩
    cases lenient.symm.trans strict
  obtain ⟨report₁, new₁, w₁, runs₁, applied₁, left₁, rows₁, ⟨table, stored⟩, calm₁⟩ :=
    Runner.run_through (o := { o with target := first }) live (unbarred first (by simp)) reserved
      makeable alone calm acts_first
  obtain ⟨report, new, w', runs, applied, left, rows, -, -⟩ :=
    Runner.run_through (o := { o with target := whole }) live (unbarred whole (by simp)) reserved
      makeable alone calm acts_whole
  have between_eq : between = w₁ := congrArg Prod.snd runs₁
  rw [between_eq] at acts_second ⊢
  -- The second run finds the rows there were and, after them, completed ones.
  have unbarred₁ := (unbarred second (by simp)).append lenient left₁
  rw [← rows₁] at unbarred₁
  obtain ⟨report₂, new₂, w₂, runs₂, applied₂, left₂, rows₂, -, -⟩ :=
    Runner.run_through (o := { o with target := second }) live unbarred₁ (.inr ⟨_, stored⟩)
      stored.canMake alone calm₁ acts_second
  have ascending := Source.list_ascending listed
  have pending : Ascending (rowless (w.database.trackingRows r.tracker.table) migrations) :=
    ascending.filter _
  obtain ⟨rest, parts, together⟩ := splits.select pending
  have remaining := rowless_append left₁ ascending.distinct parts
  rw [rows₁, remaining] at applied₂ left₂
  rw [together] at applied left
  refine ⟨report₁, report₂, report, congrArg Prod.fst runs₁, congrArg Prod.fst runs₂,
    congrArg Prod.fst runs, ?_, ?_⟩
  · rw [applied₁, applied₂, applied, idsOf, idsOf, idsOf, List.map_append]
  · have second_eq : (ran w₁ second).2 = w₂ := congrArg Prod.snd runs₂
    have whole_eq : (ran w whole).2 = w' := congrArg Prod.snd runs
    have same := timeless_of_left (List.rel_append left₁ left₂) left rfl
    simp only [timeless, second_eq, whole_eq, rows₂, rows₁, rows, List.map_append,
      List.append_assoc, ← same]

open Sample

/-- Three migrations where there is no table, the first one on its own and then the others. Where the
    first one has failed and a record beside them is in progress, forced runs pass over both and apply
    the other two, each on its own. -/
theorem runs_compose_split :
    let r : Runner := ⟨.registry [first, second, third], ⟨.standard⟩⟩
    let failed : TrackingRow := (Stage.failed (.ofMicros 0) (.ofMicros 5) "no space").row first.id
    let busy : TrackingRow := (Stage.inProgress (.ofMicros 8)).row ⟨"009", by decide⟩
    let composes (o : RunOptions) (w : World) (one two whole : RunTarget) : Prop :=
      let ran (w : World) (target : RunTarget) := w.run (r.run { o with target })
      let acts (w : World) (target : RunTarget) := r.ActsWell { o with target } w
      let between := (ran w one).2
      let rows := w.database.trackingRows r.tracker.table
      (o.dryRun = false ∧ o.strictChecksums = false ∧ r.source.list = .ok [first, second, third] ∧
        RunTarget.Splits [first, second, third] one two whole ∧
        w.database.Reserved r.tracker.table ∧ w.database.CanMake r.tracker.table ∧
        (∀ row ∈ rows, ∃ record, row.decode = .ok record) ∧
        (o.force = true ∨ ∀ row ∈ rows, row.state.isDirty = false) ∧
        r.source.LeavesAlone r.tracker.table ∧ w.faults = [] ∧ acts w one ∧ acts between two ∧
        acts w whole) ∧
      ∃ report₁ report₂ report, (ran w one).1 = .ok report₁ ∧ (ran between two).1 = .ok report₂ ∧
        (ran w whole).1 = .ok report ∧ report₁.applied ++ report₂.applied = report.applied
    composes {} (.ticking .empty) (.upTo first.id) .all .all ∧
      composes { force := true } (.ticking (.holding ⟨true, [failed, busy]⟩)) (.steps 1) (.steps 1)
        (.steps (1 + 1)) := by
  intro r failed busy composes
  have listed : r.source.list = .ok [first, second, third] := inOrder_of_ascending (by decide)
  have alone : r.source.LeavesAlone r.tracker.table :=
    Source.leavesAlone_silent listed (by decide) r.tracker.table
  have sure : ∀ migrations, r.source.list = .ok migrations → ∀ m ∈ migrations, ∀ w : World,
      (w.perform m.id .up m.up).1 = .ok () := by
    intro migrations same m inside w
    obtain rfl := Except.ok.inj (same.symm.trans listed)
    simp only [List.mem_cons, List.not_mem_nil, or_false] at inside
    obtain rfl | rfl | rfl := inside <;> rfl
  have acts {o : RunOptions} {w : World} (live : o.dryRun = false) (calm : w.faults = []) :
      r.ActsWell o w := fun _ events => Runner.run_outcomes live alone calm sure events
  have composed {o : RunOptions} {w : World} {one two whole : RunTarget} (live : o.dryRun = false)
      (lenient : o.strictChecksums = false)
      (splits : RunTarget.Splits [first, second, third] one two whole)
      (reserved : w.database.Reserved r.tracker.table) (makeable : w.database.CanMake r.tracker.table)
      (readable : ∀ row ∈ w.database.trackingRows r.tracker.table, ∃ record, row.decode = .ok record)
      (clean : o.force = true ∨
        ∀ row ∈ w.database.trackingRows r.tracker.table, row.state.isDirty = false)
      (calm : w.faults = []) : composes o w one two whole := by
    have calm₁ : (w.run (r.run { o with target := one })).2.faults = [] :=
      Runner.run_calm live alone calm
    obtain ⟨report₁, report₂, report, ends₁, ends₂, ends, together, -⟩ :=
      runs_compose r o w _ _ _ _ live lenient listed splits reserved makeable readable clean alone calm
        (acts live calm) (acts live calm₁) (acts live calm)
    exact ⟨⟨live, lenient, listed, splits, reserved, makeable, readable, clean, alone, calm,
      acts live calm, acts live calm₁, acts live calm⟩,
      report₁, report₂, report, ends₁, ends₂, ends, together⟩
  have stored : (Database.holding ⟨true, [failed, busy]⟩).Stores r.tracker.table _ := .holding _
  have readable : ∀ row ∈ [failed, busy], ∃ record, row.decode = .ok record := by
    intro row inside
    simp only [List.mem_cons, List.not_mem_nil, or_false] at inside
    obtain rfl | rfl := inside
    · exact ⟨_, Stage.decode_row ..⟩
    · exact ⟨_, Stage.decode_row ..⟩
  exact ⟨composed rfl rfl (.all first.id (by decide)) (.inl rfl) (.inr (.inr rfl))
      (fun _ inside => (List.not_mem_nil inside).elim)
      (.inr fun _ inside => (List.not_mem_nil inside).elim) rfl,
    composed rfl rfl (.steps 1 1) (.inr ⟨_, stored⟩) stored.canMake
      (stored.trackingRows_eq.symm ▸ readable) (.inl rfl) rfl⟩

end SchemaMigration
