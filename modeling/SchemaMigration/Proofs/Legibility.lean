import Mathlib.Data.List.Nodup
import SchemaMigration.Proofs.Transitions

/-! # Legible tables

A table is `Legible` when every row of it is a record and no two rows have one id. Then a look-up finds
the one record that an id has, and the state of a migration can be read off the rows themselves.
-/

namespace SchemaMigration

theorem MigrationId.ofText?_eq_some {text : String} {id : MigrationId}
    (h : ofText? text = some id) : id.text = text := by
  unfold ofText? at h
  split at h
  · cases h
    rfl
  · cases h

theorem MigrationId.some_text_injective : Function.Injective fun id : MigrationId => some id.text :=
  fun _ _ same => ext_text (Option.some.inj same)

theorem MigrationStatus.ofText?_eq_some {word : String} {s : MigrationStatus}
    (h : ofText? word = some s) : s.text = word := by
  unfold ofText? at h
  have same := List.find?_some h
  exact eq_of_beq same

@[simp] theorem MigrationStatus.ofText?_text (s : MigrationStatus) : ofText? s.text = some s := by
  cases s <;> decide

namespace TrackingRow

/-- What a row and the record in it have in common. -/
structure Holds (row : TrackingRow) (r : MigrationRecord) : Prop where
  id : row.id = some r.id.text
  status : row.status = some r.status.text
  started : row.startedAt.isSome
  checksum : row.checksum = r.checksum
  failureReason : row.failureReason = r.failureReason

theorem holds_of_decode {row : TrackingRow} {r : MigrationRecord} (h : row.decode = .ok r) :
    row.Holds r := by
  unfold decode at h
  cases named : MigrationId.ofText? (row.id.getD "") with
  | none => simp only [named, reduceCtorEq] at h
  | some id =>
  cases status : row.status with
  | none => simp only [named, status, reduceCtorEq] at h
  | some word =>
  cases known : MigrationStatus.ofText? word with
  | none => simp only [named, status, known, reduceCtorEq] at h
  | some s =>
  cases start : row.startedAt with
  | none => simp only [named, status, known, start, reduceCtorEq] at h
  | some begun =>
  cases first : begun.toInstant with
  | error fault => simp [named, status, known, start, first, bind, Except.bind] at h
  | ok startedAt =>
  cases last : row.finishedAt.mapM Timestamp.toInstant with
  | error fault => simp [named, status, known, start, first, last, bind, Except.bind] at h
  | ok finishedAt =>
  simp only [named, status, known, start, first, last, bind, Except.bind, pure, Except.pure,
    Except.ok.injEq] at h
  subst h
  have text : id.text = row.id.getD "" := MigrationId.ofText?_eq_some named
  refine ⟨?_, ?_, by rw [start]; rfl, rfl, rfl⟩
  · cases own : row.id with
    | none => exact (id.isValid.1 (by rw [text, own]; rfl)).elim
    | some t => rw [text, own, Option.getD_some]
  · rw [status, MigrationStatus.ofText?_eq_some known]

def state (row : TrackingRow) : MigrationState :=
  match row.status.bind MigrationStatus.ofText? with
  | some s => s.toState
  | none => .pending

theorem Holds.state_eq {row : TrackingRow} {r : MigrationRecord} (h : row.Holds r) :
    row.state = r.state := by
  simp only [state, h.status, Option.bind_some, MigrationStatus.ofText?_text, MigrationRecord.state]

theorem Holds.state_ne_pending {row : TrackingRow} {r : MigrationRecord} (h : row.Holds r) :
    row.state ≠ .pending := by
  rw [h.state_eq]
  exact r.state_ne_pending

theorem Holds.status_iff {row : TrackingRow} {r : MigrationRecord} (h : row.Holds r)
    (s : MigrationStatus) : row.status = some s.text ↔ row.state = s.toState := by
  rw [h.status, h.state_eq, MigrationRecord.state]
  cases r.status <;> cases s <;> simp [MigrationStatus.text, MigrationStatus.toState]

end TrackingRow

/-- The state that the rows of a table show for a migration. -/
def stateIn (rows : List TrackingRow) (id : MigrationId) : MigrationState :=
  match rows.find? (·.hasId id.text) with
  | some row => row.state
  | none => .pending

/-- On rows that are records, a look-up succeeds, and the state of what it finds is the one that the rows
    show. -/
theorem lookUp_of_decodes {rows : List TrackingRow}
    (decodes : ∀ row ∈ rows, ∃ r, row.decode = .ok r) (id : MigrationId) :
    ∃ record, Tracker.lookUp rows id.text = .ok record ∧
      MigrationState.ofRecord record = stateIn rows id := by
  unfold Tracker.lookUp stateIn
  cases found : rows.find? (·.hasId id.text) with
  | none => exact ⟨none, rfl, rfl⟩
  | some row =>
      obtain ⟨r, decoded⟩ := decodes row (List.mem_of_find?_eq_some found)
      refine ⟨some r, ?_, (TrackingRow.holds_of_decode decoded).state_eq.symm⟩
      simp only [Option.mapM_some, Tracker.decodeRow, decoded]
      rfl

/-- Every row is a record, and no two rows have one id. -/
structure Legible (rows : List TrackingRow) : Prop where
  decodes : ∀ row ∈ rows, ∃ r, row.decode = .ok r
  unique : (rows.map TrackingRow.id).Nodup

namespace Legible

variable {rows : List TrackingRow} {id : MigrationId}

theorem holds (h : Legible rows) {row : TrackingRow} (inside : row ∈ rows) :
    ∃ r, row.decode = .ok r ∧ row.Holds r := by
  obtain ⟨r, decoded⟩ := h.decodes row inside
  exact ⟨r, decoded, TrackingRow.holds_of_decode decoded⟩

theorem only (h : Legible rows) {row other : TrackingRow} {id : String}
    (found : rows.find? (·.hasId id) = some row) (inside : other ∈ rows)
    (same : other.hasId id = true) : other = row := by
  have own := List.find?_some found
  apply List.inj_on_of_nodup_map h.unique inside (List.mem_of_find?_eq_some found)
  rw [TrackingRow.hasId_iff.mp same, TrackingRow.hasId_iff.mp own]

theorem stateIn_eq_pending (h : Legible rows) :
    stateIn rows id = .pending ↔ rows.find? (·.hasId id.text) = none := by
  unfold stateIn
  cases found : rows.find? (·.hasId id.text) with
  | none => simp only
  | some row =>
      obtain ⟨r, -, holds⟩ := h.holds (List.mem_of_find?_eq_some found)
      simp only [holds.state_ne_pending, reduceCtorEq]

theorem lookUp_ok (h : Legible rows) (id : MigrationId) :
    ∃ record, Tracker.lookUp rows id.text = .ok record ∧
      MigrationState.ofRecord record = stateIn rows id :=
  lookUp_of_decodes h.decodes id

end Legible

end SchemaMigration
