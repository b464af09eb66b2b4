import SchemaMigration.Proofs.Runs

/-! # Interrupted runs

Whichever calls fail, a run stops after a prefix of what it has selected. The prefix is completed, the
migration after it has no row or one that tells how far it got, and nothing later was touched;
`LeavesPrefix` says all of that.
-/

namespace SchemaMigration

/-- The row that says that a migration is completed as it is defined now. -/
structure Migration.IsAppliedAs (m : Migration) (row : TrackingRow) : Prop where
  id : row.id = some m.id.text
  status : row.status = some completedStatus
  checksum : row.checksum = some m.checksum

/-- How far the first of the migrations that are left got, as its row and its executions tell. -/
inductive CutShort : List Migration → List TrackingRow → List Execution → Prop where
  | untouched (rest : List Migration) : CutShort rest [] []
  | inProgress (m : Migration) (rest : List Migration) (row : TrackingRow)
      (outcome : Except DbError Unit) (begun : row.isAt m.id.text inProgressStatus = true) :
      CutShort (m :: rest) [row] [m.forward outcome]
  | failed (m : Migration) (rest : List Migration) (row : TrackingRow) (e : DbError)
      (known : row.isAt m.id.text failedStatus = true)
      (reason : row.failureReason = some e.message) :
      CutShort (m :: rest) [row] [m.forward (.error e)]

/-- What a run leaves behind of the migrations it has selected: `done` are completed by the rows
    `finished`, and `rest` is `CutShort`. -/
structure LeavesPrefix (t : Tracker) (rows rows' : List TrackingRow) (es : List Event)
    (done rest : List Migration) (finished last : List TrackingRow) (ran : List Execution) :
    Prop where
  rows_kept : rows' = rows ++ (finished ++ last)
  completed : List.Forall₂ Migration.IsAppliedAs done finished
  executed : executionsIn es = done.map (·.forward (.ok ())) ++ ran
  cut_short : CutShort rest last ran
  later_rowless : ∀ m ∈ rest.tail, ∀ row ∈ rows', row.id ≠ some m.id.text
  later_unexecuted : ∀ m ∈ rest.tail, ∀ x ∈ executionsIn es, x.id ≠ m.id
  announced : Announced t es

namespace CutShort

variable {rest : List Migration} {last : List TrackingRow} {ran : List Execution}

theorem row_id (h : CutShort rest last ran) {row : TrackingRow} (inside : row ∈ last) :
    ∃ m others, rest = m :: others ∧ row.id = some m.id.text := by
  cases h with
  | untouched => cases inside
  | inProgress m others row' outcome begun =>
      obtain rfl := List.mem_singleton.mp inside
      exact ⟨m, others, rfl, (TrackingRow.isAt_iff.mp begun).1⟩
  | failed m others row' e known reason =>
      obtain rfl := List.mem_singleton.mp inside
      exact ⟨m, others, rfl, (TrackingRow.isAt_iff.mp known).1⟩

theorem execution_id (h : CutShort rest last ran) {x : Execution} (inside : x ∈ ran) :
    ∃ m others, rest = m :: others ∧ x.id = m.id := by
  cases h with
  | untouched => cases inside
  | inProgress m others row outcome begun =>
      obtain rfl := List.mem_singleton.mp inside
      exact ⟨m, others, rfl, rfl⟩
  | failed m others row e known reason =>
      obtain rfl := List.mem_singleton.mp inside
      exact ⟨m, others, rfl, rfl⟩

end CutShort

/-- A `Course` comes to a prefix that is completed and a rest that is `CutShort`; it comes to the end of
    the migrations when it succeeds. -/
theorem Course.cut {clock : Nat → Time.Reading} {armed : Prop} {n : Nat}
    {applied : List MigrationId} {todo : List Migration}
    {result : Except EngineError (List MigrationId)} {new : List TrackingRow}
    {exs : List Execution} (h : Course clock armed n applied todo result new exs) :
    ∃ done rest finished last ran, todo = done ++ rest ∧ new = finished ++ last ∧
      List.Forall₂ Migration.IsAppliedAs done finished ∧
      exs = done.map (·.forward (.ok ())) ++ ran ∧ CutShort rest last ran ∧
      (result.toBool = true → rest = []) := by
  induction h with
  | finished => exact ⟨[], [], [], [], [], rfl, rfl, .nil, rfl, .untouched [], fun _ => rfl⟩
  | @stopped n applied m rest e rows exs last =>
      refine ⟨[], m :: rest, [], rows, exs, rfl, rfl, .nil, rfl, ?_, nofun⟩
      cases last with
      | failed e => exact .failed m rest _ e (TrackingRow.isAt_iff.mpr ⟨rfl, rfl⟩) rfl
      | unbegun e struck => exact .untouched _
      | unrecorded outcome e struck =>
          exact .inProgress m rest _ outcome (TrackingRow.isAt_iff.mpr ⟨rfl, rfl⟩)
  | @applied n applied m rest result rows exs next ih =>
      obtain ⟨done, left, finished, last, ran, rfl, rfl, completed, rfl, cut, whole⟩ := ih
      exact ⟨m :: done, left, _ :: finished, last, ran, rfl, rfl,
        .cons ⟨rfl, rfl, rfl⟩ completed, rfl, cut, whole⟩

section
variable {done rest : List Migration} {finished last : List TrackingRow} {ran : List Execution}

theorem touched_ids (completed : List.Forall₂ Migration.IsAppliedAs done finished)
    (cut : CutShort rest last ran) :
    (∀ row ∈ finished ++ last, ∃ m ∈ done ++ rest.take 1, row.id = some m.id.text) ∧
      ∀ x ∈ done.map (·.forward (.ok ())) ++ ran, ∃ m ∈ done ++ rest.take 1, x.id = m.id := by
  constructor
  · intro row inside
    rcases List.mem_append.mp inside with inside | inside
    · obtain ⟨i, bound, rfl⟩ := List.mem_iff_getElem.mp inside
      have shorter : i < done.length := completed.length_eq ▸ bound
      exact ⟨done[i], List.mem_append_left _ (List.getElem_mem shorter),
        (completed.get shorter bound).id⟩
    · obtain ⟨m, others, rfl, own⟩ := cut.row_id inside
      exact ⟨m, List.mem_append_right _ List.mem_cons_self, own⟩
  · intro x inside
    rcases List.mem_append.mp inside with inside | inside
    · obtain ⟨m, among, rfl⟩ := List.mem_map.mp inside
      exact ⟨m, List.mem_append_left _ among, rfl⟩
    · obtain ⟨m, others, rfl, own⟩ := cut.execution_id inside
      exact ⟨m, List.mem_append_right _ List.mem_cons_self, own⟩

theorem later_distinct (distinct : ((done ++ rest).map Migration.id).Nodup) {m other : Migration}
    (later : m ∈ rest.tail) (touched : other ∈ done ++ rest.take 1) : other.id ≠ m.id := by
  have parts : done ++ rest = (done ++ rest.take 1) ++ rest.tail := by
    rw [List.append_assoc, ← List.drop_one, List.take_append_drop]
  rw [parts, List.map_append, List.nodup_append] at distinct
  exact distinct.2.2 _ (List.mem_map_of_mem touched) _ (List.mem_map_of_mem later)

end

theorem Runner.RunEnd.cut {r : Runner} {o : RunOptions} {w : World}
    {result : Except EngineError RunReport} {new : List TrackingRow} {exs : List Execution}
    (final : RunEnd r o w result new exs) :
    ∃ done rest finished last ran,
      r.selection o (w.database.trackingRows r.tracker.table) = done ++ rest ∧
      new = finished ++ last ∧ List.Forall₂ Migration.IsAppliedAs done finished ∧
      exs = done.map (·.forward (.ok ())) ++ ran ∧ CutShort rest last ran ∧
      (result.toBool = true → rest = []) := by
  cases final with
  | unprepared e w' fails =>
      exact ⟨[], _, [], [], [], rfl, rfl, .nil, rfl, .untouched _, nofun⟩
  | @prepared migrations records outcome new exs listed recorded course =>
      obtain ⟨done, rest, finished, last, ran, parts, added, completed, same, cut, whole⟩ :=
        course.cut
      refine ⟨done, rest, finished, last, ran, parts, added, completed, same, cut, ?_⟩
      cases outcome with
      | error e => exact nofun
      | ok applied => exact fun _ => whole rfl

/-- A run that is not dry applies a prefix of what it has selected, at whichever call it stops
    (`LeavesPrefix`). It has applied all of it when it succeeds. -/
theorem run_leaves_prefix (r : Runner) (o : RunOptions) (w : World) (live : o.dryRun = false)
    (alone : r.source.LeavesAlone r.tracker.table) :
    let rows := w.database.trackingRows r.tracker.table
    let w' := (w.run (r.run o)).2
    ∃ es done rest finished last ran,
      Ascending (r.selection o rows) ∧ r.selection o rows = done ++ rest ∧
      w'.events = w.events ++ es ∧
      LeavesPrefix r.tracker rows (w'.database.trackingRows r.tracker.table) es done rest finished
        last ran ∧
      ((w.run (r.run o)).1.toBool = true → rest = []) := by
  intro rows w'
  obtain ⟨result, new, es, w'', ends, final, kept, events, announced⟩ := r.run_ends live w alone
  obtain ⟨done, rest, finished, last, ran, parts, rfl, completed, executed, cut, whole⟩ := final.cut
  have ascending := r.selection_ascending o rows
  have distinct := ascending.distinct
  rw [parts] at distinct
  obtain ⟨of_row, of_execution⟩ := touched_ids completed cut
  have after : w' = w'' := congrArg Prod.snd ends
  rw [after]
  refine ⟨es, done, rest, finished, last, ran, ascending, parts, events,
    ⟨kept, completed, executed, cut, ?_, ?_, announced⟩, ?_⟩
  · intro m later row inside own
    rw [kept] at inside
    rcases List.mem_append.mp inside with old | new
    · have selected : m ∈ r.selection o rows :=
        parts ▸ List.mem_append_right done (List.mem_of_mem_tail later)
      have absent := (Runner.selection_source selected).1
      exact List.find?_eq_none.mp absent row old (TrackingRow.hasId_iff.mpr own)
    · obtain ⟨other, touched, other_own⟩ := of_row row new
      apply later_distinct distinct later touched
      exact MigrationId.ext_text (Option.some.inj (other_own.symm.trans own))
  · intro m later x inside
    rw [executed] at inside
    obtain ⟨other, touched, same⟩ := of_execution x inside
    rw [same]
    exact later_distinct distinct later touched
  · rwa [ends]

open Sample

/-- Two of three migrations are begun, and the call fails that is to record the second one as
    completed. -/
theorem run_leaves_prefix_struck :
    let r : Runner := ⟨.registry [first, second, third], ⟨.standard⟩⟩
    let o : RunOptions := {}
    let w : World :=
      { World.ticking .empty with
        faults := [⟨.executeWithParams, 4, .execution "disk full"⟩] }
    let w' := (w.run (r.run o)).2
    (o.dryRun = false ∧ r.source.LeavesAlone r.tracker.table) ∧
    ∃ es done rest finished last ran, [first, second, third] = done ++ rest ∧
      w'.events = es ∧
      LeavesPrefix r.tracker [] (w'.database.trackingRows r.tracker.table) es done rest finished
        last ran := by
  intro r o w w'
  have listed : r.source.list = .ok [first, second, third] := inOrder_of_ascending (by decide)
  have alone : r.source.LeavesAlone r.tracker.table :=
    Source.leavesAlone_silent listed (by decide) r.tracker.table
  obtain ⟨es, done, rest, finished, last, ran, -, parts, events, left, -⟩ :=
    run_leaves_prefix r o w rfl alone
  have selected : r.selection o [] = [first, second, third] := Runner.selection_eq listed
  refine ⟨⟨rfl, alone⟩, es, done, rest, finished, last, ran, selected.symm.trans parts, events, left⟩

end SchemaMigration
