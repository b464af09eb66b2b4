import SchemaMigration.Proofs.Convergence
import SchemaMigration.Proofs.Marking

/-! # Marking one by one, and marking again

Marking everything comes to what marking one migration after the other comes to, in any order. What is
settled is no longer covered, so that marking everything again goes on where a call failed. Either way
the rows are told by what was there before and by the ids that were reached, apart from times.
-/

namespace SchemaMigration

open World

theorem timeless_settledRow (now now' : Time.Reading) (checksum : Option String) (old : TrackingRow) :
    (settledRow (.ofReading now) checksum old).timeless =
      (settledRow (.ofReading now') checksum old).timeless := by
  cases start : old.startedAt <;> simp [TrackingRow.timeless, settledRow, start]

theorem Legible.mem_timeless {rows rows' : List TrackingRow} (legible : Legible rows)
    (same : ∀ id : MigrationId, (rows.find? (·.hasId id.text)).map TrackingRow.timeless =
      (rows'.find? (·.hasId id.text)).map TrackingRow.timeless) {row : TrackingRow}
    (inside : row ∈ rows.map TrackingRow.timeless) : row ∈ rows'.map TrackingRow.timeless := by
  obtain ⟨old, present, rfl⟩ := List.mem_map.mp inside
  obtain ⟨r, -, holds⟩ := legible.holds present
  have there := same r.id
  rw [legible.find?_iff.mpr ⟨present, holds.id⟩, Option.map_some] at there
  obtain ⟨other, found, alike⟩ := Option.map_eq_some_iff.mp there.symm
  exact List.mem_map.mpr ⟨other, List.mem_of_find?_eq_some found, alike⟩

theorem Legible.perm_timeless {rows rows' : List TrackingRow} (legible : Legible rows)
    (legible' : Legible rows')
    (same : ∀ id : MigrationId, (rows.find? (·.hasId id.text)).map TrackingRow.timeless =
      (rows'.find? (·.hasId id.text)).map TrackingRow.timeless) :
    (rows.map TrackingRow.timeless).Perm (rows'.map TrackingRow.timeless) := by
  have distinct {rows : List TrackingRow} (legible : Legible rows) :
      (rows.map TrackingRow.timeless).Nodup := by
    apply List.Nodup.of_map TrackingRow.id
    rw [List.map_map]
    exact legible.unique
  rw [List.perm_ext_iff_of_nodup (distinct legible) (distinct legible')]
  exact fun row => ⟨legible.mem_timeless same, legible'.mem_timeless fun id => (same id).symm⟩

/-- Settling the same ids comes to the same rows, whenever and in whatever order it is done. -/
theorem Settled.perm {checksum? : MigrationId → Option String} {chosen : MigrationId → Prop}
    {rows rows₁ rows₂ : List TrackingRow} (first : Settled checksum? chosen rows rows₁)
    (second : Settled checksum? chosen rows rows₂) :
    (rows₁.map TrackingRow.timeless).Perm (rows₂.map TrackingRow.timeless) := by
  refine first.legible.perm_timeless second.legible fun id => ?_
  by_cases among : chosen id
  · obtain ⟨now, found⟩ := first.settled id among
    obtain ⟨now', found'⟩ := second.settled id among
    rw [found, found', Option.map_some, Option.map_some, timeless_settledRow now now']
  · rw [first.kept id among, second.kept id among]

theorem find?_text (migrations : List Migration) (id : MigrationId) :
    (migrations.find? fun m => m.id.text == id.text) = migrations.find? (·.id = id) := by
  congr 1
  funext m
  rw [Bool.eq_iff_iff, beq_iff_eq, decide_eq_true_iff]
  exact ⟨MigrationId.ext_text, congrArg MigrationId.text⟩

theorem Tracker.state_reads {w : World} {t : Tracker} {table : TrackingTable}
    (stored : w.database.Stores t.table table) (legible : Legible table.rows) (calm : w.faults = [])
    (id : MigrationId) : w.Reads (t.state id.text) (.ok (stateIn table.rows id)) := by
  obtain ⟨record, looked, state⟩ := legible.lookUp_ok id
  have attempts := Tracker.state_attempts stored id.text
  rw [looked] at attempts
  rw [← state]
  exact attempts.reads ((admitsLooking_read t).state id.text) calm

namespace Runner

variable {r : Runner} {consent : Consent} {w : World} {migrations : List Migration} {id : MigrationId}

theorem markTarget_reads {t : Tracker} {table : TrackingTable}
    (stored : w.database.Stores t.table table) (legible : Legible table.rows) (calm : w.faults = [])
    (known : id ∈ idsOf migrations ∨ stateIn table.rows id ≠ .pending) :
    w.Reads (markTarget t migrations id.text) (.ok (id, checksumOf? migrations id)) := by
  unfold markTarget findMigration checksumOf?
  rw [find?_text]
  cases found : migrations.find? (·.id = id) with
  | some m =>
      have own := List.find?_some found
      rw [decide_eq_true_iff] at own
      subst own
      exact World.reads_value _ (.ok (m.id, some m.checksum))
  | none =>
      -- Then its record is looked up, and gives its own id and no checksum.
      have absent : id ∉ idsOf migrations := by
        intro inside
        obtain ⟨m, among, rfl⟩ := List.mem_map.mp inside
        exact List.find?_eq_none.mp found m among (decide_eq_true rfl)
      obtain ⟨row, at_id⟩ : ∃ row, table.rows.find? (·.hasId id.text) = some row := by
        apply Option.ne_none_iff_exists'.mp
        rw [Ne, ← legible.stateIn_eq_pending]
        exact known.resolve_left absent
      obtain ⟨record, decoded, holds⟩ := legible.holds (List.mem_of_find?_eq_some at_id)
      have own : record.id = id := MigrationId.some_text_injective
        (holds.id.symm.trans (TrackingRow.hasId_iff.mp (List.find?_some at_id)))
      have looked : Tracker.lookUp table.rows id.text = .ok (some record) := by
        rw [Tracker.lookUp, at_id]
        simp only [Option.mapM_some, Tracker.decodeRow, decoded]
        rfl
      have reads := (Tracker.get?_attempts stored id.text).reads
        ((admitsLooking_read t).get? id.text) calm
      rw [looked] at reads
      subst own
      exact reads.bind_ok fun es => (World.reads_note _ _ _).bind_ok fun es =>
        World.reads_value _ (.ok (record.id, none))

theorem markCompleted_ends (given : consent.isGiven = true) (listed : r.source.list = .ok migrations)
    (workable : Workable r.tracker w.database) (calm : w.faults = [])
    (unfinished : stateIn (w.database.trackingRows r.tracker.table) id ≠ .completed)
    (known : id ∈ idsOf migrations ∨
      stateIn (w.database.trackingRows r.tracker.table) id ≠ .pending) :
    ∃ w', w.run (r.markCompleted id.text consent) = (.ok true, w') ∧ w'.faults = [] ∧
      Workable r.tracker w'.database ∧
      Settled (checksumOf? migrations) (· = id) (w.database.trackingRows r.tracker.table)
        (w'.database.trackingRows r.tracker.table) := by
  obtain ⟨table, w₁, makes, stored, same, calm₁⟩ := workable.ensure_ends calm
  rw [← same] at unfinished known ⊢
  have legible : Legible table.rows := same ▸ workable.legible
  obtain ⟨es, targets⟩ := markTarget_reads stored legible calm₁ known
  obtain ⟨fs, shows⟩ := Tracker.state_reads (w := { w₁ with events := es }) stored legible calm₁ id
  obtain ⟨result, changed, w₂, settles, stored₂, still, ends_as⟩ :=
    settle_ends (w := { w₁ with events := fs }) (checksumOf? migrations) stored legible id
  obtain ⟨e, -, -, armed⟩ | ⟨rfl, settled⟩ := ends_as
  · exact (armed calm₁).elim
  · let text := "Marked " ++ id.text ++ " completed (was " ++ (stateIn table.rows id).text ++ ")"
    have kept : (w₂.record (.noted .info text)).database.Stores r.tracker.table changed := stored₂
    refine ⟨w₂.record (.noted .info text), ?_, still calm₁, .of_stores kept settled.legible, ?_⟩
    · unfold markCompleted discover
      rw [given, listed]
      change w.run (Engine.ofExcept (.ok migrations) >>= _) = _
      rw [World.run_bind_ok (a := migrations) rfl, World.run_bind_ok makes, World.run_bind_ok targets]
      simp only
      rw [World.run_bind_ok shows, if_neg unfinished, World.run_bind_ok settles]
      rfl
    · rwa [kept.trackingRows_eq]

theorem markEach_ends (given : consent.isGiven = true) (listed : r.source.list = .ok migrations)
    (ids : List MigrationId) (distinct : ids.Nodup) (workable : Workable r.tracker w.database)
    (calm : w.faults = [])
    (unfinished : ∀ id ∈ ids, stateIn (w.database.trackingRows r.tracker.table) id ≠ .completed)
    (known : ∀ id ∈ ids, id ∈ idsOf migrations ∨
      stateIn (w.database.trackingRows r.tracker.table) id ≠ .pending) :
    ∃ w', w.run (ids.mapM fun id => r.markCompleted id.text consent) =
        (.ok (ids.map fun _ => true), w') ∧
      Settled (checksumOf? migrations) (· ∈ ids) (w.database.trackingRows r.tracker.table)
        (w'.database.trackingRows r.tracker.table) := by
  induction ids generalizing w with
  | nil => exact ⟨w, rfl, (Settled.refl workable.legible).congr fun id => by simp⟩
  | cons id rest ih =>
      obtain ⟨fresh, distinct⟩ := List.nodup_cons.mp distinct
      obtain ⟨w₁, marks, calm₁, workable₁, first⟩ := markCompleted_ends given listed workable calm
        (unfinished id List.mem_cons_self) (known id List.mem_cons_self)
      -- The states of the others are the ones before.
      have other (later : MigrationId) (inside : later ∈ rest) :
          stateIn (w₁.database.trackingRows r.tracker.table) later =
            stateIn (w.database.trackingRows r.tracker.table) later := by
        apply first.stateIn_other
        rintro rfl
        exact fresh inside
      obtain ⟨w₂, others, second⟩ := ih distinct workable₁ calm₁
        (fun later inside => by
          rw [other later inside]
          exact unfinished later (List.mem_cons_of_mem id inside))
        fun later inside => by
          rw [other later inside]
          exact known later (List.mem_cons_of_mem id inside)
      refine ⟨w₂, ?_, (first.trans second ?_).congr fun later => List.mem_cons⟩
      · rw [List.mapM_cons, World.run_bind_ok marks, World.run_bind_ok others]
        rfl
      · rintro _ rfl
        exact fresh

end Runner

theorem Settled.covers_iff {scope : MarkScope} {migrations : List Migration}
    {checksum? : MigrationId → Option String} {chosen : MigrationId → Prop}
    {rows rows' : List TrackingRow} (h : Settled checksum? chosen rows rows') {id : MigrationId} :
    scope.Covers migrations rows' id ↔ scope.Covers migrations rows id ∧ ¬chosen id := by
  by_cases among : chosen id
  · refine ⟨fun covered => ?_, fun both => (both.2 among).elim⟩
    exact (covered.ne_completed (h.stateIn_chosen among)).elim
  · simp only [MarkScope.Covers, h.stateIn_other among, among, not_false_eq_true, and_true]

/-- Where calls failed and where none fails any more, what was settled before and what is settled now
    is what the scope covered at first. -/
theorem Runner.markAllCompleted_resumes {r : Runner} (scope : MarkScope) {consent : Consent}
    {w later : World} {migrations : List Migration} (given : consent.isGiven = true)
    (listed : r.source.list = .ok migrations) (workable : Workable r.tracker w.database)
    (same : later.database = (w.run (r.markAllCompleted scope consent)).2.database)
    (calm : later.faults = []) :
    (later.run (r.markAllCompleted scope consent)).1.toBool = true ∧
      Settled (checksumOf? migrations)
        (scope.Covers migrations (w.database.trackingRows r.tracker.table))
        (w.database.trackingRows r.tracker.table)
        ((later.run (r.markAllCompleted scope consent)).2.database.trackingRows r.tracker.table) := by
  obtain ⟨result, cut, done, marks, still, part, covered, -⟩ :=
    markAllCompleted_ends scope given listed workable
  rw [marks] at same
  obtain ⟨succeeds, rest⟩ :=
    markAllCompleted_settles (w := later) scope given listed (same ▸ still) calm
  rw [← same] at part
  have whole := part.trans rest fun id among left => (part.covers_iff.mp left).2 among
  refine ⟨succeeds, whole.congr fun id => ?_⟩
  rw [part.covers_iff]
  constructor
  · intro at_first
    by_cases among : id ∈ done
    · exact .inl among
    · exact .inr ⟨at_first, among⟩
  · rintro (among | ⟨at_first, -⟩)
    · exact covered id among
    · exact at_first

/-- Marking one by one what marking everything marks, in any order, always answers that it has marked
    and comes to the same rows apart from times; and so does marking everything again after calls have
    failed on the way. -/
theorem mark_all_agrees (r : Runner) (scope : MarkScope) (consent each : Consent) (w : World)
    (migrations : List Migration) (given : consent.isGiven = true) (given' : each.isGiven = true)
    (listed : r.source.list = .ok migrations) (workable : Workable r.tracker w.database)
    (calm : w.faults = []) :
    let rows (w : World) := w.database.trackingRows r.tracker.table
    let timeless (w : World) := (rows w).map TrackingRow.timeless
    let whole := (w.run (r.markAllCompleted scope consent)).2
    (∀ ids : List MigrationId, ids.Nodup →
      (∀ id, id ∈ ids ↔ stateIn (rows w) id ≠ .completed ∧ stateIn (rows whole) id = .completed) →
      let single := w.run (ids.mapM fun id => r.markCompleted id.text each)
      single.1 = .ok (ids.map fun _ => true) ∧ (timeless single.2).Perm (timeless whole)) ∧
    ∀ (faults : List ArmedFault) (later : World),
      later.database =
        ({ w with faults := faults }.run (r.markAllCompleted scope consent)).2.database →
      later.faults = [] →
      let again := later.run (r.markAllCompleted scope consent)
      again.1.toBool = true ∧ (timeless again.2).Perm (timeless whole) := by
  intro rows timeless whole
  have marked : Settled (checksumOf? migrations) (scope.Covers migrations (rows w)) (rows w)
      (rows whole) := (Runner.markAllCompleted_settles scope given listed workable calm).2
  constructor
  · intro ids distinct told single
    have covered (id : MigrationId) : id ∈ ids ↔ scope.Covers migrations (rows w) id :=
      (told id).trans marked.completed_iff
    obtain ⟨w', marks, one_by_one⟩ := Runner.markEach_ends given' listed ids distinct workable calm
      (fun id inside => ((covered id).mp inside).ne_completed)
      fun id inside => ((covered id).mp inside).known
    have ends : single = _ := marks
    rw [ends]
    exact ⟨rfl, (one_by_one.congr fun id => (covered id).symm).perm marked⟩
  · intro faults later same calm' again
    obtain ⟨succeeds, resumed⟩ := Runner.markAllCompleted_resumes (w := { w with faults := faults })
      scope given listed workable same calm'
    exact ⟨succeeds, resumed.perm marked⟩

open Sample

/-- A failed migration, one without a row and a failed record that belongs to none are marked in another
    order, and all at once with a call that fails in between. -/
theorem mark_all_agrees_cut :
    let lost : MigrationId := ⟨"008", by decide⟩
    let table : List TrackingRow :=
      [(Stage.failed (.ofMicros 0) (.ofMicros 5) "no space").row first.id,
        (Stage.failed (.ofMicros 6) (.ofMicros 7) "no space").row lost]
    let db : Database := .holding ⟨true, table⟩
    let r : Runner := ⟨.registry [first, second], ⟨.standard⟩⟩
    let w := World.ticking db
    let timeless (w : World) := (w.database.trackingRows r.tracker.table).map TrackingRow.timeless
    let mark := r.markAllCompleted .all .ofForce
    let single := w.run ([lost, second.id, first.id].mapM fun id => r.markCompleted id.text .ofAnswer)
    let cut := { w with faults := [⟨.executeWithParams, 2, .execution "disk full"⟩] }.run mark
    let again := { cut.2 with faults := [] }.run mark
    (Consent.ofForce.isGiven = true ∧ Consent.ofAnswer.isGiven = true ∧
      r.source.list = .ok [first, second] ∧ Workable r.tracker w.database ∧ w.faults = []) ∧
    single.1 = .ok [true, true, true] ∧
    (timeless single.2).Perm (timeless (w.run mark).2) ∧
    again.1.toBool = true ∧ (timeless again.2).Perm (timeless (w.run mark).2) := by
  intro lost table db r w timeless mark single cut again
  have listed : r.source.list = .ok [first, second] := inOrder_of_ascending (by decide)
  have legible : Legible table := by
    refine Staged.legible (P := fun _ _ => True) (fun row inside => ?_) (by decide)
    rw [List.mem_cons, List.mem_singleton] at inside
    rcases inside with rfl | rfl <;> exact ⟨_, _, rfl, trivial⟩
  have workable : Workable r.tracker w.database := .of_stores (Database.Stores.holding _) legible
  have rows : w.database.trackingRows r.tracker.table = table :=
    (Database.Stores.holding _).trackingRows_eq
  obtain ⟨one_by_one, resumes⟩ :=
    mark_all_agrees r .all .ofForce .ofAnswer w [first, second] rfl rfl listed workable rfl
  have covered (id : MigrationId) :
      id ∈ [lost, second.id, first.id] ↔ MarkScope.all.Covers [first, second] table id := by
    constructor
    · intro inside
      rw [List.mem_cons, List.mem_cons, List.mem_singleton] at inside
      rcases inside with rfl | rfl | rfl
      · exact .inr (.inl ⟨rfl, rfl⟩)
      · exact .inl ⟨rfl, by decide⟩
      · exact .inr (.inl ⟨rfl, rfl⟩)
    · intro covers
      by_contra other
      simp only [List.mem_cons, List.not_mem_nil, or_false, not_or] at other
      have pending : stateIn table id = .pending := by
        rw [legible.stateIn_eq_pending]
        simp only [table, List.find?_cons, hasId_of_ne other.2.2 (Stage.row_id _ _),
          hasId_of_ne other.1 (Stage.row_id _ _), List.find?_nil]
      rcases covers with ⟨-, source⟩ | ⟨failed, -⟩ | ⟨busy, -⟩
      · rcases List.mem_pair.mp source with same | same
        · exact other.2.2 same
        · exact other.2.1 same
      · cases pending.symm.trans failed
      · cases pending.symm.trans busy
  obtain ⟨marks, same⟩ := one_by_one [lost, second.id, first.id] (by decide) fun id => by
    rw [covered, ← rows]
    exact (Runner.markAllCompleted_settles .all rfl listed workable rfl).2.completed_iff.symm
  exact ⟨⟨rfl, rfl, listed, workable, rfl⟩, marks, same, resumes _ _ rfl rfl⟩

end SchemaMigration
