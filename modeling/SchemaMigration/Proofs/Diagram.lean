import SchemaMigration.Proofs.Legibility

/-! # The state diagram

A migration without a row is pending. Four moves (`Move`) lead from one state to another, each from one
state only; settling leads from any state to completed and removing from any state back to pending. The
tracker follows this diagram: on a legible table, an operation changes the row of its migration to the
one that the diagram gives, or refuses and names the state it found.
-/

namespace SchemaMigration

/-- A move from one state of the diagram to another, with what it records. -/
inductive Move where
  | begin
  | complete (checksum : String)
  | fail (reason : String)
  | retry
  deriving DecidableEq

/-- A row of a migration before anything is recorded in it. -/
def TrackingRow.blank (id : MigrationId) : TrackingRow :=
  ⟨some id.text, none, none, none, none, none⟩

/-- The row of a migration, blank where it has none. -/
def rowOf (rows : List TrackingRow) (id : MigrationId) : TrackingRow :=
  (rows.find? (·.hasId id.text)).getD (.blank id)

/-- Puts a row in the place of the one that a migration has, or at the end. -/
def putRow (rows : List TrackingRow) (id : MigrationId) (row : TrackingRow) : List TrackingRow :=
  if rows.any (·.hasId id.text) then rows.map fun r => if r.hasId id.text then row else r
  else rows ++ [row]

namespace Move

def source : Move → MigrationState
  | begin => .pending
  | complete _ | fail _ => .inProgress
  | retry => .failed

def transition : Move → Transition
  | begin => .begin
  | complete _ => .complete
  | fail _ => .fail
  | retry => .retry

def row (now : Timestamp) (old : TrackingRow) : Move → TrackingRow
  | begin => ⟨old.id, some inProgressStatus, some now, none, none, none⟩
  | complete checksum =>
    { old with
      status := some completedStatus
      finishedAt := some now
      checksum := some checksum
      failureReason := none }
  | fail reason =>
    { old with
      status := some failedStatus
      finishedAt := some now
      failureReason := some reason }
  | retry =>
    { old with
      status := some inProgressStatus
      startedAt := some now
      finishedAt := none
      failureReason := none }

/-- The operation of the tracker that makes a move. -/
def script (t : Tracker) (id : MigrationId) : Move → Engine Unit
  | begin => t.begin id
  | complete checksum => t.complete id checksum
  | fail reason => t.fail id reason
  | retry => t.retry id

/-- What a move comes to: the row it leads to, or a refusal. -/
def outcome (rows : List TrackingRow) (id : MigrationId) (now : Timestamp) (move : Move) :
    Except EngineError Unit × List TrackingRow :=
  if stateIn rows id = move.source then
    (.ok (), putRow rows id (move.row now (rowOf rows id)))
  else (.error (.invalidState id (stateIn rows id) move.transition), rows)

theorem outcome_possible {rows : List TrackingRow} {id : MigrationId} {move : Move}
    (h : stateIn rows id = move.source) (now : Timestamp) :
    move.outcome rows id now = (.ok (), putRow rows id (move.row now (rowOf rows id))) :=
  if_pos h

theorem outcome_refused {rows : List TrackingRow} {id : MigrationId} {move : Move}
    (h : stateIn rows id ≠ move.source) (now : Timestamp) :
    move.outcome rows id now =
      (.error (.invalidState id (stateIn rows id) move.transition), rows) :=
  if_neg h

end Move

/-- The row of a migration that is settled at a time, given the row before. -/
def settledRow (now : Timestamp) (checksum : Option String) (old : TrackingRow) : TrackingRow :=
  { old with
    status := some completedStatus
    startedAt := old.startedAt.or (some now)
    finishedAt := some now
    checksum := checksum.or old.checksum
    failureReason := none }

namespace Legible

variable {rows : List TrackingRow} {id : MigrationId}

theorem isAt_eq (h : Legible rows) {row : TrackingRow} (inside : row ∈ rows)
    (s : MigrationStatus) :
    row.isAt id.text s.text = (row.hasId id.text && decide (stateIn rows id = s.toState)) := by
  by_cases own : row.hasId id.text = true
  · obtain ⟨found, at_id⟩ : ∃ found, rows.find? (·.hasId id.text) = some found :=
      Option.isSome_iff_exists.mp (List.find?_isSome.mpr ⟨row, inside, own⟩)
    have same := h.only at_id inside own
    subst same
    obtain ⟨r, -, holds⟩ := h.holds inside
    have status : (row.status == some s.text) = decide (row.state = s.toState) := by
      rw [Bool.eq_iff_iff, beq_iff_eq, decide_eq_true_iff]
      exact holds.status_iff s
    have shown : stateIn rows id = row.state := by
      simp only [stateIn, at_id]
    rw [shown, ← status, TrackingRow.isAt]
    rfl
  · have other : (row.id == some id.text) = false := by
      simpa only [TrackingRow.hasId, Bool.not_eq_true] using own
    simp only [TrackingRow.isAt, TrackingRow.hasId, other, Bool.false_and]

end Legible

theorem map_eq_putRow {rows : List TrackingRow} {id : MigrationId} (h : Legible rows)
    {row : TrackingRow} (found : rows.find? (·.hasId id.text) = some row)
    (f : TrackingRow → TrackingRow) :
    (rows.map fun r => if r.hasId id.text then f r else r) = putRow rows id (f (rowOf rows id)) := by
  have own : row.hasId id.text = true := List.find?_some found
  have present : rows.any (·.hasId id.text) = true :=
    List.any_eq_true.mpr ⟨row, List.mem_of_find?_eq_some found, own⟩
  simp only [putRow, present, if_true, rowOf, found, Option.getD_some]
  apply List.map_congr_left
  intro other inside
  split
  · rename_i same
    rw [h.only found inside same]
  · rfl

theorem putRow_absent {rows : List TrackingRow} {id : MigrationId}
    (absent : rows.find? (·.hasId id.text) = none) (row : TrackingRow) :
    putRow rows id row = rows ++ [row] := by
  have free : rows.any (·.hasId id.text) = false :=
    List.any_eq_false.mpr (List.find?_eq_none.mp absent)
  simp only [putRow, free, Bool.false_eq_true, if_false]

theorem rowOf_absent {rows : List TrackingRow} {id : MigrationId}
    (absent : rows.find? (·.hasId id.text) = none) : rowOf rows id = .blank id := by
  simp only [rowOf, absent, Option.getD_none]

theorem rowOf_id (rows : List TrackingRow) (id : MigrationId) : (rowOf rows id).id = some id.text := by
  unfold rowOf
  cases found : rows.find? (·.hasId id.text) with
  | none => rfl
  | some row => exact TrackingRow.hasId_iff.mp (List.find?_some found)

theorem hasId_of_ne {id other : MigrationId} (different : other ≠ id) {row : TrackingRow}
    (own : row.id = some id.text) : row.hasId other.text = false := by
  have texts : id.text ≠ other.text := fun same => different (MigrationId.ext_text same.symm)
  simp only [TrackingRow.hasId, own, beq_eq_false_iff_ne, ne_eq, Option.some.injEq, texts,
    not_false_eq_true]

theorem find?_putRow_of_ne {rows : List TrackingRow} {id other : MigrationId} {row : TrackingRow}
    (own : row.id = some id.text) (different : other ≠ id) :
    (putRow rows id row).find? (·.hasId other.text) = rows.find? (·.hasId other.text) := by
  unfold putRow
  split
  · rename_i present
    clear present
    induction rows with
    | nil => rfl
    | cons r rest ih =>
        simp only [List.map_cons, List.find?_cons, ih]
        by_cases mine : r.hasId id.text = true
        · simp only [mine, if_true, hasId_of_ne different own,
            hasId_of_ne different (TrackingRow.hasId_iff.mp mine)]
        · simp only [mine, if_false, Bool.false_eq_true]
  · simp only [List.find?_append, List.find?_cons, hasId_of_ne different own, List.find?_nil,
      Option.or_none]

theorem rowOf_putRow_of_ne {rows : List TrackingRow} {id other : MigrationId} {row : TrackingRow}
    (own : row.id = some id.text) (different : other ≠ id) :
    rowOf (putRow rows id row) other = rowOf rows other := by
  rw [rowOf, rowOf, find?_putRow_of_ne own different]

theorem rowOf_filter_of_ne {rows : List TrackingRow} {id other : MigrationId}
    (different : other ≠ id) :
    rowOf (rows.filter fun row => !row.hasId id.text) other = rowOf rows other := by
  unfold rowOf
  congr 1
  rw [List.find?_filter]
  congr 1
  funext row
  by_cases mine : row.hasId id.text = true
  · simp [mine, hasId_of_ne different (TrackingRow.hasId_iff.mp mine)]
  · rw [Bool.eq_iff_iff]
    simp [mine]

section
variable {w : World} {t : Tracker} {table : TrackingTable} (id : MigrationId)
variable (stored : w.database.Stores t.table table) (legible : Legible table.rows)
include stored legible

/-- The moves that start from a status: the statement selects the one row with the id if it has that
    status, and finds nothing otherwise. -/
theorem guarded_follows (move : Move) (s : MigrationStatus) {statement : Time.Reading → Change}
    (source : move.source = s.toState)
    (updates : (statement (w.clock w.readings)).apply table =
      .ok (table.update (·.isAt id.text s.text) (move.row (.ofReading (w.clock w.readings))))) :
    ∃ es, w.Attempts t.table table (t.guarded id move.transition statement)
      (move.outcome table.rows id (.ofReading (w.clock w.readings))).1
      { table with rows := (move.outcome table.rows id (.ofReading (w.clock w.readings))).2 }
      1 es := by
  let f := move.row (.ofReading (w.clock w.readings))
  -- The statement goes by id and status, which on a legible table is by the id alone, or by nothing.
  by_cases shown : stateIn table.rows id = s.toState
  · have selects : ∀ row ∈ table.rows, row.isAt id.text s.text = row.hasId id.text := by
      intro row inside
      simp only [legible.isAt_eq inside, shown, decide_true, Bool.and_true]
    obtain ⟨row, found⟩ : ∃ row, table.rows.find? (·.hasId id.text) = some row := by
      apply Option.ne_none_iff_exists'.mp
      rw [Ne, ← legible.stateIn_eq_pending, shown]
      cases s <;> simp only [MigrationStatus.toState, reduceCtorEq, not_false_eq_true]
    have some_selected : 0 < table.rows.countP (·.isAt id.text s.text) := by
      rw [List.countP_pos_iff]
      have inside := List.mem_of_find?_eq_some found
      exact ⟨row, inside, (selects row inside).trans (List.find?_some found)⟩
    obtain ⟨k, affected⟩ := Nat.exists_eq_add_of_lt some_selected
    have changes : table.update (·.isAt id.text s.text) f =
        ({ table with rows := putRow table.rows id (f (rowOf table.rows id)) }, k + 1) := by
      rw [← map_eq_putRow legible found]
      simp only [TrackingTable.update, affected, Nat.zero_add]
      congr 2
      apply List.map_congr_left
      intro other inside
      simp only [selects other inside]
    rw [Move.outcome_possible (shown.trans source.symm)]
    exact ⟨_, Tracker.guarded_attempts stored _ (updates.trans (congrArg _ changes))⟩
  · have selects : ∀ row ∈ table.rows, row.isAt id.text s.text = false := by
      intro row inside
      simp only [legible.isAt_eq inside, shown, decide_false, Bool.and_false]
    have changes := TrackingTable.update_none f selects
    obtain ⟨record, looked, state⟩ := legible.lookUp_ok id
    rw [Move.outcome_refused (source ▸ shown), ← state]
    exact ⟨_, Tracker.guarded_refused stored _ (updates.trans (congrArg _ changes)) looked⟩

theorem begin_follows :
    ∃ n es, w.Attempts t.table table (t.begin id)
      (Move.begin.outcome table.rows id (.ofReading (w.clock w.readings))).1
      { table with rows := (Move.begin.outcome table.rows id (.ofReading (w.clock w.readings))).2 }
      n es := by
  by_cases pending : stateIn table.rows id = Move.begin.source
  · have absent := legible.stateIn_eq_pending.mp pending
    rw [Move.outcome_possible pending, putRow_absent absent, rowOf_absent absent]
    exact ⟨_, _, Tracker.begin_attempts stored absent (Change.insertStarted_absent absent _)⟩
  · obtain ⟨record, looked, state⟩ := legible.lookUp_ok id
    rw [Move.outcome_refused pending]
    cases record with
    | none => exact (pending state.symm).elim
    | some r =>
        rw [← state]
        exact ⟨_, _, Tracker.begin_refused stored looked⟩

theorem move_follows (move : Move) :
    ∃ n es, w.Attempts t.table table (move.script t id)
      (move.outcome table.rows id (.ofReading (w.clock w.readings))).1
      { table with rows := (move.outcome table.rows id (.ofReading (w.clock w.readings))).2 }
      n es := by
  cases move with
  | begin => exact begin_follows id stored legible
  | complete checksum =>
      exact ⟨1, guarded_follows id stored legible (.complete checksum) .inProgress rfl rfl⟩
  | fail reason =>
      exact ⟨1, guarded_follows id stored legible (.fail reason) .inProgress rfl rfl⟩
  | retry => exact ⟨1, guarded_follows id stored legible .retry .failed rfl rfl⟩

theorem forceComplete_follows (checksum : Option String) :
    ∃ es, w.Attempts t.table table (t.forceComplete id checksum) (.ok (stateIn table.rows id))
      { table with
        rows := putRow table.rows id
          (settledRow (.ofReading (w.clock w.readings)) checksum (rowOf table.rows id)) } 1 es := by
  cases found : table.rows.find? (·.hasId id.text) with
  | none =>
      rw [legible.stateIn_eq_pending.mpr found, putRow_absent found, rowOf_absent found]
      have settled : settledRow (.ofReading (w.clock w.readings)) checksum (.blank id) =
          ⟨some id.text, some completedStatus, some (.ofReading (w.clock w.readings)),
            some (.ofReading (w.clock w.readings)), checksum, none⟩ := by
        simp only [settledRow, TrackingRow.blank, Option.none_or, Option.or_none]
      rw [settled]
      exact ⟨_, Tracker.forceComplete_inserts stored checksum found
        (Change.insertCompleted_absent found _ checksum)⟩
  | some row =>
      have inside := List.mem_of_find?_eq_some found
      obtain ⟨r, -, holds⟩ := legible.holds inside
      have settles := map_eq_putRow legible found fun r =>
        { r with
          status := some completedStatus
          finishedAt := some (.ofReading (w.clock w.readings))
          checksum := checksum.or r.checksum
          failureReason := none }
      -- A legible row has a start, so that the time of the clock is not taken for it.
      have keeps_start : (rowOf table.rows id).startedAt.or
          (some (.ofReading (w.clock w.readings))) = (rowOf table.rows id).startedAt := by
        rw [rowOf, found, Option.getD_some]
        exact Option.or_of_isSome holds.started
      obtain ⟨record, looked, state⟩ := legible.lookUp_ok id
      cases record with
      | none =>
          have pending := legible.stateIn_eq_pending.mp state.symm
          rw [found] at pending
          cases pending
      | some record =>
          rw [← state, settledRow, keeps_start, ← settles]
          exact ⟨_, Tracker.forceComplete_settles stored checksum looked rfl⟩

omit legible in
theorem remove_follows :
    ∃ es, w.Attempts t.table table (t.remove id) (.ok (table.rows.any (·.hasId id.text)))
      { table with rows := table.rows.filter fun row => !row.hasId id.text } 0 es := by
  have counted : decide (0 < table.rows.countP (·.hasId id.text)) =
      table.rows.any (·.hasId id.text) := by
    rw [Bool.eq_iff_iff, decide_eq_true_iff, List.countP_pos_iff, List.any_eq_true]
  rw [← counted]
  exact ⟨_, Tracker.remove_attempts stored rfl⟩

end

/-- An operation ends with a result and leaves a tracking table behind. -/
def World.Ends {α : Type} (w : World) (x : Engine α) (result : Except EngineError α)
    (name : TableName) (table : TrackingTable) : Prop :=
  (w.run x).1 = result ∧ (w.run x).2.database.Stores name table

theorem World.Attempts.ends {α : Type} {w : World} {name : TableName} {table changed : TrackingTable}
    {x : Engine α} {result : Except EngineError α} {n : Nat} {es : List Event}
    (h : w.Attempts name table x result changed n es) (calm : w.faults = []) :
    w.Ends x result name changed := by
  obtain ⟨w', ends, stores, -⟩ := h.calm calm
  rw [Ends, ends]
  exact ⟨rfl, stores⟩

/-- On a legible table and with no failing call, the tracker follows the diagram. A migration is pending
    exactly without a row. A `Move` succeeds exactly from its source and then puts the row that the
    diagram gives; from any other state it is refused with the state there is, and the table stays as it
    was. Settling succeeds from any state and answers the one before; removing takes away the row and
    answers whether there was one. None of them changes the row of another migration. -/
theorem tracker_follows_diagram (t : Tracker) (id : MigrationId) (w : World) (table : TrackingTable)
    (stored : w.database.Stores t.table table) (legible : Legible table.rows)
    (calm : w.faults = []) :
    let now := Timestamp.ofReading (w.clock w.readings)
    let settled (checksum : Option String) : List TrackingRow :=
      putRow table.rows id (settledRow now checksum (rowOf table.rows id))
    let removed : List TrackingRow := table.rows.filter fun row => !row.hasId id.text
    (stateIn table.rows id = .pending ↔ ∀ row ∈ table.rows, row.id ≠ some id.text) ∧
    (∀ move : Move,
      w.Ends (move.script t id) (move.outcome table.rows id now).1 t.table
        { table with rows := (move.outcome table.rows id now).2 } ∧
      ∀ other, other ≠ id →
        rowOf (move.outcome table.rows id now).2 other = rowOf table.rows other) ∧
    (∀ checksum : Option String,
      w.Ends (t.forceComplete id checksum) (.ok (stateIn table.rows id)) t.table
        { table with rows := settled checksum } ∧
      ∀ other, other ≠ id → rowOf (settled checksum) other = rowOf table.rows other) ∧
    w.Ends (t.remove id) (.ok (table.rows.any (·.hasId id.text))) t.table
      { table with rows := removed } ∧
    ∀ other, other ≠ id → rowOf removed other = rowOf table.rows other := by
  refine ⟨?_, fun move => ⟨?_, fun other different => ?_⟩,
    fun checksum => ⟨?_, fun other different => ?_⟩, ?_, fun other different => ?_⟩
  · simp only [legible.stateIn_eq_pending, List.find?_eq_none, TrackingRow.hasId_iff, ne_eq]
  · obtain ⟨n, es, ends⟩ := move_follows id stored legible move
    exact ends.ends calm
  · unfold Move.outcome
    split
    · exact rowOf_putRow_of_ne (by cases move <;> exact rowOf_id table.rows id) different
    · rfl
  · obtain ⟨es, ends⟩ := forceComplete_follows id stored legible checksum
    exact ends.ends calm
  · exact rowOf_putRow_of_ne (rowOf_id table.rows id) different
  · obtain ⟨es, ends⟩ := remove_follows id stored
    exact ends.ends calm
  · exact rowOf_filter_of_ne different

/-- A failed migration beside one that is completed: it can be retried, and nothing else moves it. -/
theorem tracker_follows_diagram_failed :
    let id : MigrationId := ⟨"002", by decide⟩
    let done : TrackingRow :=
      ⟨some "001", some "completed", some (.finite 0), some (.finite 5), some "c1", none⟩
    let failed : TrackingRow :=
      ⟨some "002", some "failed", some (.finite 6), some (.finite 7), none, some "no space"⟩
    let db : Database := .holding ⟨true, [done, failed]⟩
    let w := World.ticking db
    let t : Tracker := ⟨.standard⟩
    (w.database.Stores t.table ⟨true, [done, failed]⟩ ∧ Legible [done, failed] ∧ w.faults = []) ∧
    w.Ends (t.retry id) (.ok ()) t.table
      ⟨true, [done, { failed with
        status := some "in_progress"
        startedAt := some (.finite 0)
        finishedAt := none
        failureReason := none }]⟩ ∧
    w.Ends (t.begin id) (.error (.invalidState id .failed .begin)) t.table ⟨true, [done, failed]⟩ := by
  intro id done failed db w t
  have stored : w.database.Stores t.table ⟨true, [done, failed]⟩ := .holding _
  have legible : Legible [done, failed] := by
    refine ⟨?_, by decide⟩
    intro row inside
    rw [List.mem_cons, List.mem_singleton] at inside
    rcases inside with rfl | rfl
    · exact ⟨⟨⟨"001", by decide⟩, .completed, ⟨0, 0⟩, some ⟨0, 5000⟩, some "c1", none⟩, by decide +kernel⟩
    · exact ⟨⟨id, .failed, ⟨0, 6000⟩, some ⟨0, 7000⟩, none, some "no space"⟩, by decide +kernel⟩
  have follows := (tracker_follows_diagram t id w ⟨true, [done, failed]⟩ stored legible rfl).2.1
  exact ⟨⟨stored, legible, rfl⟩, (follows .retry).1, (follows .begin).1⟩

end SchemaMigration
