import SchemaMigration.Proofs.Legibility
import SchemaMigration.Proofs.Timestamps

/-! # Stages of a migration

What the tracker can have written about a migration: when it was begun, and, once it is completed or
failed, when that was and with which checksum or for which reason. A statement leads from one `Stage` to
another, so that a table which only the tracker writes has no other rows.
-/

namespace SchemaMigration

theorem TrackingRow.decode_written {row : TrackingRow} {id : MigrationId} (status : MigrationStatus)
    {start : Time.Reading} (finish : Option Time.Reading) (named : row.id = some id.text)
    (known : row.status = some status.text) (started : row.startedAt = some (.ofReading start))
    (finished : row.finishedAt = finish.map .ofReading) :
    row.decode = .ok ⟨id, status, start.toInstant, finish.map Time.Reading.toInstant, row.checksum,
      row.failureReason⟩ := by
  have ends : (finish.map Timestamp.ofReading).mapM Timestamp.toInstant =
      .ok (finish.map Time.Reading.toInstant) := by
    cases finish with
    | none => rfl
    | some finish => simp [Timestamp.toInstant_ofReading]
  simp [decode, named, known, started, finished, ends, Timestamp.toInstant_ofReading, bind, Except.bind]
  rfl

/-- What the tracker has written about a migration. -/
inductive Stage where
  | inProgress (start : Time.Reading)
  | completed (start finish : Time.Reading) (checksum : Option String)
  | failed (start finish : Time.Reading) (reason : String)

namespace Stage

def status : Stage → MigrationStatus
  | inProgress _ => .inProgress
  | completed .. => .completed
  | failed .. => .failed

def start : Stage → Time.Reading
  | inProgress start | completed start _ _ | failed start _ _ => start

def finish? : Stage → Option Time.Reading
  | inProgress _ => none
  | completed _ finish _ | failed _ finish _ => some finish

def checksum? : Stage → Option String
  | completed _ _ checksum => checksum
  | inProgress _ | failed .. => none

def reason? : Stage → Option String
  | failed _ _ reason => some reason
  | inProgress _ | completed .. => none

def row (id : MigrationId) (s : Stage) : TrackingRow :=
  ⟨some id.text, some s.status.text, some (.ofReading s.start), s.finish?.map .ofReading,
    s.checksum?, s.reason?⟩

def record (id : MigrationId) (s : Stage) : MigrationRecord :=
  ⟨id, s.status, s.start.toInstant, s.finish?.map Time.Reading.toInstant, s.checksum?, s.reason?⟩

variable {id other : MigrationId} {s : Stage}

@[simp] theorem row_id (id : MigrationId) (s : Stage) : (s.row id).id = some id.text := rfl

theorem hasId_row {text : String} : (s.row id).hasId text = true ↔ id.text = text := by
  rw [TrackingRow.hasId_iff, row_id, Option.some.injEq]

theorem isAt_row {status : MigrationStatus} :
    (s.row id).isAt id.text status.text = true ↔ s.status = status := by
  rw [TrackingRow.isAt_iff]
  cases s <;> cases status <;> simp [row, Stage.status, MigrationStatus.text]

theorem decode_row (id : MigrationId) (s : Stage) : (s.row id).decode = .ok (s.record id) :=
  TrackingRow.decode_written s.status s.finish? rfl rfl rfl rfl

end Stage

namespace Change

def about : Change → String
  | insertStarted id _ | insertCompleted id _ _ | complete id _ _ | fail id _ _ | restart id _
  | settle id _ _ | delete id => id

def inserts : Change → Bool
  | insertStarted .. | insertCompleted .. => true
  | complete .. | fail .. | restart .. | settle .. | delete _ => false

/-- A statement leads a migration from a stage, or from having no row, to another stage. -/
inductive Leads (id : MigrationId) : Change → Option Stage → Stage → Prop
  | begin (now : Time.Reading) : Leads id (insertStarted id.text now) none (.inProgress now)
  | mark (now : Time.Reading) (checksum : Option String) :
      Leads id (insertCompleted id.text now checksum) none (.completed now now checksum)
  | complete (start now : Time.Reading) (checksum : String) :
      Leads id (complete id.text now checksum) (some (.inProgress start))
        (.completed start now (some checksum))
  | fail (start now : Time.Reading) (reason : String) :
      Leads id (fail id.text now reason) (some (.inProgress start)) (.failed start now reason)
  | restart (start finish now : Time.Reading) (reason : String) :
      Leads id (restart id.text now) (some (.failed start finish reason)) (.inProgress now)
  | settle (s : Stage) (now : Time.Reading) (checksum : Option String) :
      Leads id (settle id.text now checksum) (some s)
        (.completed s.start now (checksum.or s.checksum?))

end Change

theorem TrackingTable.insertion_inv {table changed : TrackingTable} {row : TrackingRow}
    {affected : Nat} (applied : (do
      let t ← table.insert row
      .ok (t, 1)) = (Except.ok (changed, affected) : Except Violation (TrackingTable × Nat))) :
    table.violation? row = none ∧ changed = { table with rows := table.rows ++ [row] } ∧
      affected = 1 := by
  unfold TrackingTable.insert at applied
  split at applied
  · cases applied
  · rename_i kept
    cases applied
    exact ⟨kept, rfl, rfl⟩

theorem TrackingTable.rows_of_insertion {table changed : TrackingTable} {row : TrackingRow}
    {affected : Nat} (applied : (do
      let t ← table.insert row
      .ok (t, 1)) = (Except.ok (changed, affected) : Except Violation (TrackingTable × Nat))) :
    changed.rows = table.rows ++ [row] :=
  congrArg TrackingTable.rows (insertion_inv applied).2.1

/-- All rows are written by the tracker, each about a migration at a `Stage` with a property. -/
def Staged (P : MigrationId → Stage → Prop) (rows : List TrackingRow) : Prop :=
  ∀ row ∈ rows, ∃ id s, row = Stage.row id s ∧ P id s

namespace Staged

variable {P Q : MigrationId → Stage → Prop} {rows : List TrackingRow} {id : MigrationId}
variable {table changed : TrackingTable}

theorem imp (h : Staged P rows) (weaker : ∀ id s, P id s → Q id s) : Staged Q rows := by
  intro row inside
  obtain ⟨id, s, same, holds⟩ := h row inside
  exact ⟨id, s, same, weaker id s holds⟩

theorem legible (h : Staged P rows) (unique : (rows.map TrackingRow.id).Nodup) :
    Legible rows := by
  refine ⟨fun row inside => ?_, unique⟩
  obtain ⟨id, s, rfl, -⟩ := h row inside
  exact ⟨_, s.decode_row id⟩

theorem update {selected : TrackingRow → Bool} {f : TrackingRow → TrackingRow}
    (h : Staged P table.rows) (unique : (table.rows.map TrackingRow.id).Nodup)
    (own : ∀ r, selected r = true → r.id = some id.text)
    (found : 0 < table.rows.countP selected)
    (next : ∀ s, P id s → selected (s.row id) = true → ∃ s', f (s.row id) = s'.row id ∧ Q id s')
    (others : ∀ other s, other ≠ id → P other s → Q other s) :
    Staged Q (table.update selected f).1.rows := by
  obtain ⟨mine, present, chosen⟩ := List.countP_pos_iff.mp found
  intro row inside
  obtain ⟨old, old_inside, rfl⟩ := List.mem_map.mp inside
  obtain ⟨other, s, rfl, holds⟩ := h old old_inside
  by_cases also : selected (s.row other) = true
  · obtain rfl : other = id := MigrationId.some_text_injective (own _ also)
    obtain ⟨s', led, holds'⟩ := next s holds also
    exact ⟨other, s', by rw [if_pos also, led], holds'⟩
  · refine ⟨other, s, if_neg also, others other s ?_ holds⟩
    -- A row that is not selected has another id, since the one that is selected is the only one.
    rintro rfl
    apply also
    rwa [List.inj_on_of_nodup_map unique old_inside present (own mine chosen).symm]

theorem insert {s : Stage} (h : Staged P table.rows)
    (absent : ∀ row ∈ table.rows, row.id ≠ some id.text) (new : Q id s)
    (others : ∀ other s, other ≠ id → P other s → Q other s)
    (rows : changed.rows = table.rows ++ [s.row id]) : Staged Q changed.rows := by
  intro row inside
  rw [rows, List.mem_append, List.mem_singleton] at inside
  rcases inside with old | rfl
  · obtain ⟨other, s', rfl, holds⟩ := h row old
    refine ⟨other, s', rfl, others other s' ?_ holds⟩
    rintro rfl
    exact absent _ old rfl
  · exact ⟨id, s, rfl, new⟩

/-- A statement that affects rows `Leads` the migration that it is about to its next stage. -/
theorem change {statement : Change} {affected : Nat} (h : Staged P table.rows)
    (unique : (table.rows.map TrackingRow.id).Nodup) (about : statement.about = id.text)
    (fits : statement.inserts = true → ∀ row ∈ table.rows, row.id ≠ some id.text)
    (applied : statement.apply table = .ok (changed, affected)) (found : 0 < affected)
    (next : ∀ old s, (∀ s ∈ old, P id s) → statement.Leads id old s → Q id s)
    (others : ∀ other s, other ≠ id → P other s → Q other s) : Staged Q changed.rows := by
  have selects (status : String) (r : TrackingRow) (chosen : r.isAt id.text status = true) :
      r.id = some id.text := (TrackingRow.isAt_iff.mp chosen).1
  cases statement with
  | insertStarted text now =>
      obtain rfl : text = id.text := about
      exact h.insert (fits rfl) (next none _ (by simp) (.begin now)) others
        (TrackingTable.rows_of_insertion applied)
  | insertCompleted text now checksum =>
      obtain rfl : text = id.text := about
      exact h.insert (fits rfl) (next none _ (by simp) (.mark now checksum)) others
        (TrackingTable.rows_of_insertion applied)
  | complete text now checksum =>
      obtain rfl : text = id.text := about
      cases applied
      refine h.update unique (selects _) found (fun s holds chosen => ?_) others
      have begun : s.status = .inProgress := Stage.isAt_row.mp chosen
      cases s with
      | inProgress start => exact ⟨_, rfl, next _ _ (by simpa) (.complete start now checksum)⟩
      | completed | failed => cases begun
  | fail text now reason =>
      obtain rfl : text = id.text := about
      cases applied
      refine h.update unique (selects _) found (fun s holds chosen => ?_) others
      have begun : s.status = .inProgress := Stage.isAt_row.mp chosen
      cases s with
      | inProgress start => exact ⟨_, rfl, next _ _ (by simpa) (.fail start now reason)⟩
      | completed | failed => cases begun
  | restart text now =>
      obtain rfl : text = id.text := about
      cases applied
      refine h.update unique (selects _) found (fun s holds chosen => ?_) others
      have failed : s.status = .failed := Stage.isAt_row.mp chosen
      cases s with
      | failed start finish reason =>
          exact ⟨_, rfl, next _ _ (by simpa) (.restart start finish now reason)⟩
      | inProgress | completed => cases failed
  | settle text now checksum =>
      obtain rfl : text = id.text := about
      cases applied
      refine h.update unique (fun r chosen => TrackingRow.hasId_iff.mp chosen) found
        (fun s holds _ => ?_) others
      exact ⟨_, rfl, next _ _ (by simpa) (.settle s now checksum)⟩
  | delete text =>
      obtain rfl : text = id.text := about
      cases applied
      intro row inside
      obtain ⟨kept, other_id⟩ := List.mem_filter.mp inside
      obtain ⟨other, s, rfl, holds⟩ := h row kept
      refine ⟨other, s, rfl, others other s ?_ holds⟩
      rintro rfl
      rw [Bool.not_eq_true', ← Bool.not_eq_true] at other_id
      exact other_id (Stage.hasId_row.mpr rfl)

end Staged

/-- Ids stay unique when a row is added only where there is none with its id. -/
theorem Change.unique_apply {table changed : TrackingTable} {statement : Change} {affected : Nat}
    (unique : (table.rows.map TrackingRow.id).Nodup)
    (fits : statement.inserts = true → ∀ row ∈ table.rows, row.id ≠ some statement.about)
    (applied : statement.apply table = .ok (changed, affected)) :
    (changed.rows.map TrackingRow.id).Nodup := by
  have added (row : TrackingRow) (fresh : ∀ r ∈ table.rows, r.id ≠ row.id)
      (rows : changed.rows = table.rows ++ [row]) : (changed.rows.map TrackingRow.id).Nodup := by
    rw [rows, List.map_append, List.nodup_append]
    simpa [unique] using fresh
  have updated (selected : TrackingRow → Bool) (f : TrackingRow → TrackingRow)
      (same_id : ∀ r, (f r).id = r.id) :
      ((table.update selected f).1.rows.map TrackingRow.id).Nodup := by
    have ids : (table.update selected f).1.rows.map TrackingRow.id =
        table.rows.map TrackingRow.id := by
      simp only [TrackingTable.update, List.map_map]
      apply List.map_congr_left
      intro r _
      by_cases chosen : selected r = true <;> simp [chosen, same_id]
    rwa [ids]
  cases statement with
  | insertStarted => exact added _ (fits rfl) (TrackingTable.rows_of_insertion applied)
  | insertCompleted => exact added _ (fits rfl) (TrackingTable.rows_of_insertion applied)
  | complete | fail | restart | settle =>
      cases applied
      exact updated _ _ fun _ => rfl
  | delete =>
      cases applied
      exact unique.sublist (List.filter_sublist.map _)

end SchemaMigration
