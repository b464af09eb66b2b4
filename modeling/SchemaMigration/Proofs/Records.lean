import Mathlib.Data.List.Perm.Basic
import SchemaMigration.Engine.Run
import SchemaMigration.Proofs.Legibility

/-! # Records of a table

An operation reads the whole table once and goes by the records from then on, which are `Recorded` in the
rows. What it concludes about a migration from the records can be read off the rows: whether there is a
row, and where ids are unique also the state and whether the definition has changed.
-/

namespace SchemaMigration

/-- The records of a table are what its rows hold. -/
structure Recorded (rows : List TrackingRow) (records : List MigrationRecord) : Prop where
  of_record : ∀ r ∈ records, ∃ row ∈ rows, row.Holds r
  of_row : ∀ row ∈ rows, ∃ r ∈ records, row.Holds r

section
variable {α β ε : Type} {f : α → Except ε β} {as : List α} {bs : List β}

theorem members_of_forall₂ {R : α → β → Prop} (pairs : List.Forall₂ R as bs) :
    (∀ a ∈ as, ∃ b ∈ bs, R a b) ∧ ∀ b ∈ bs, ∃ a ∈ as, R a b := by
  induction pairs with
  | nil => simp
  | @cons a b _ _ first _ ih =>
      simp only [List.mem_cons, forall_eq_or_imp, exists_eq_or_imp]
      exact ⟨⟨.inl first, fun c inside => .inr (ih.1 c inside)⟩,
        .inl first, fun a' inside => .inr (ih.2 a' inside)⟩

theorem forall₂_of_mapM_ok (h : as.mapM f = .ok bs) :
    List.Forall₂ (fun a b => f a = .ok b) as bs := by
  induction as generalizing bs with
  | nil =>
      obtain rfl : [] = bs := Except.ok.inj h
      exact .nil
  | cons a rest ih =>
      rw [List.mapM_cons] at h
      cases first : f a with
      | error e => simp only [first, bind, Except.bind, reduceCtorEq] at h
      | ok b =>
          cases others : rest.mapM f with
          | error e => simp only [first, others, bind, Except.bind, reduceCtorEq] at h
          | ok cs =>
              simp only [first, others, bind, Except.bind, pure, Except.pure, Except.ok.injEq] at h
              exact h ▸ .cons first (ih others)

theorem mapM_of_forall₂ (pairs : List.Forall₂ (fun a b => f a = .ok b) as bs) :
    as.mapM f = .ok bs := by
  induction pairs with
  | nil => rfl
  | cons first _ ih =>
      rw [List.mapM_cons, first, ih]
      rfl

theorem mapM_of_perm {as' : List α} (perm : as'.Perm as) (h : as.mapM f = .ok bs) :
    ∃ bs', as'.mapM f = .ok bs' ∧ bs'.Perm bs := by
  obtain ⟨bs', pairs, shuffled⟩ := List.perm_comp_forall₂ perm (forall₂_of_mapM_ok h)
  exact ⟨bs', mapM_of_forall₂ pairs, shuffled⟩

theorem mem_of_mapM_ok (h : as.mapM f = .ok bs) :
    (∀ b ∈ bs, ∃ a ∈ as, f a = .ok b) ∧ ∀ a ∈ as, ∃ b ∈ bs, f a = .ok b :=
  (members_of_forall₂ (forall₂_of_mapM_ok h)).symm

theorem exists_mapM_ok (h : ∀ a ∈ as, ∃ b, f a = .ok b) : ∃ bs, as.mapM f = .ok bs := by
  induction as with
  | nil => exact ⟨[], rfl⟩
  | cons a rest ih =>
      obtain ⟨b, first⟩ := h a List.mem_cons_self
      obtain ⟨bs, others⟩ := ih fun a' inside => h a' (List.mem_cons_of_mem a inside)
      refine ⟨b :: bs, ?_⟩
      rw [List.mapM_cons, first, others]
      rfl

theorem exists_of_mapM_error {e : ε} (h : as.mapM f = .error e) : ∃ a ∈ as, f a = .error e := by
  induction as with
  | nil => cases h
  | cons a rest ih =>
      rw [List.mapM_cons] at h
      cases first : f a with
      | error e' =>
          simp only [first, bind, Except.bind, Except.error.injEq] at h
          exact ⟨a, List.mem_cons_self, h ▸ first⟩
      | ok b =>
          cases others : rest.mapM f with
          | error e' =>
              simp only [first, others, bind, Except.bind, Except.error.injEq] at h
              obtain ⟨a', inside, failed⟩ := ih (h ▸ others)
              exact ⟨a', List.mem_cons_of_mem a inside, failed⟩
          | ok bs => simp only [first, others, bind, Except.bind, pure, Except.pure, reduceCtorEq] at h

end

namespace Tracker

theorem decode_of_decodeRow {row : TrackingRow} {r : MigrationRecord} (h : decodeRow row = .ok r) :
    row.decode = .ok r := by
  unfold decodeRow at h
  cases decoded : row.decode with
  | error fault =>
      rw [decoded] at h
      cases h
  | ok r' =>
      rw [decoded] at h
      exact congrArg Except.ok (Except.ok.inj h)

theorem holds_of_decodeRow {row : TrackingRow} {r : MigrationRecord} (h : decodeRow row = .ok r) :
    row.Holds r :=
  TrackingRow.holds_of_decode (decode_of_decodeRow h)

theorem recorded_of_decoded {rows : List TrackingRow} {records : List MigrationRecord}
    (h : rows.mapM decodeRow = .ok records) : Recorded rows records := by
  obtain ⟨of_record, of_row⟩ := mem_of_mapM_ok h
  constructor
  · intro r inside
    obtain ⟨row, present, decoded⟩ := of_record r inside
    exact ⟨row, present, holds_of_decodeRow decoded⟩
  · intro row inside
    obtain ⟨r, present, decoded⟩ := of_row row inside
    exact ⟨r, present, holds_of_decodeRow decoded⟩

theorem decoded_of_decodes {rows : List TrackingRow} (h : ∀ row ∈ rows, ∃ r, row.decode = .ok r) :
    ∃ records, rows.mapM decodeRow = .ok records := by
  apply exists_mapM_ok
  intro row inside
  obtain ⟨r, decoded⟩ := h row inside
  exact ⟨r, by rw [decodeRow, decoded]; rfl⟩

theorem recorded_of_list {rows : List TrackingRow} {records : List MigrationRecord}
    (h : (rows.mergeSort TrackingRow.idNotAfter).mapM decodeRow = .ok records) :
    Recorded rows records := by
  obtain ⟨of_record, of_row⟩ := recorded_of_decoded h
  refine ⟨fun r inside => ?_, fun row inside => of_row row (List.mem_mergeSort.mpr inside)⟩
  obtain ⟨row, sorted, holds⟩ := of_record r inside
  exact ⟨row, List.mem_mergeSort.mp sorted, holds⟩

end Tracker

theorem Legible.list_ok {rows : List TrackingRow} (h : Legible rows) :
    ∃ records, (rows.mergeSort TrackingRow.idNotAfter).mapM Tracker.decodeRow = .ok records :=
  Tracker.decoded_of_decodes fun row inside => h.decodes row (List.mem_mergeSort.mp inside)

def rowless (rows : List TrackingRow) (migrations : List Migration) : List Migration :=
  migrations.filter fun m => !rows.any (·.hasId m.id.text)

/-- Whether the row of a migration is completed and carries another checksum than the current
    one. -/
def hasDrifted (rows : List TrackingRow) (m : Migration) : Bool :=
  (rows.find? (·.hasId m.id.text)).any fun row =>
    row.status == some completedStatus && row.checksum.any fun c => decide (c ≠ m.checksum)

theorem drift?_found {records : List MigrationRecord} {m : Migration} {d : ChecksumMismatch} :
    drift? records m = some d ↔ ∃ r, recordOf? records m.id = some r ∧ r.status = .completed ∧
      ∃ c, r.checksum = some c ∧ c ≠ m.checksum ∧ d = ⟨m.id, c, m.checksum⟩ := by
  unfold drift?
  cases recordOf? records m.id with
  | none => simp
  | some r =>
      by_cases completed : r.status = .completed
      · cases checksum : r.checksum with
        | none => simp [completed, checksum]
        | some c => by_cases same : c = m.checksum <;> simp [completed, checksum, same, eq_comm]
      · simp [completed]

theorem drift?_own {records : List MigrationRecord} {m : Migration} {d : ChecksumMismatch}
    (drifts : drift? records m = some d) : d.id = m.id := by
  obtain ⟨-, -, -, c, -, -, rfl⟩ := drift?_found.mp drifts
  rfl

namespace Recorded

variable {rows : List TrackingRow} {records : List MigrationRecord} {id : MigrationId}

theorem holds (h : Recorded rows records) {r : MigrationRecord}
    (found : recordOf? records id = some r) :
    ∃ row ∈ rows, row.Holds r ∧ row.hasId id.text = true := by
  unfold recordOf? at found
  have inside : r ∈ records := List.mem_reverse.mp (List.mem_of_find?_eq_some found)
  have own := List.find?_some found
  rw [decide_eq_true_iff] at own
  obtain ⟨row, present, holds⟩ := h.of_record r inside
  exact ⟨row, present, holds, TrackingRow.hasId_iff.mpr (own ▸ holds.id)⟩

theorem recordOf?_eq_none (h : Recorded rows records) :
    recordOf? records id = none ↔ rows.find? (·.hasId id.text) = none := by
  rw [List.find?_eq_none]
  constructor
  · intro missing row inside own
    obtain ⟨r, present, holds⟩ := h.of_row row inside
    apply List.find?_eq_none.mp missing r (List.mem_reverse.mpr present)
    have texts := holds.id.symm.trans (TrackingRow.hasId_iff.mp own)
    rw [decide_eq_true_iff]
    exact MigrationId.some_text_injective texts
  · intro missing
    cases found : recordOf? records id with
    | none => rfl
    | some r =>
        obtain ⟨row, inside, -, own⟩ := h.holds found
        exact (missing row inside own).elim

theorem stateOf_eq_pending (h : Recorded rows records) :
    stateOf records id = .pending ↔ rows.find? (·.hasId id.text) = none := by
  rw [← h.recordOf?_eq_none]
  unfold stateOf
  cases found : recordOf? records id with
  | none => simp only [MigrationState.ofRecord, Option.map_none, Option.getD_none]
  | some r =>
      obtain ⟨row, -, holds, -⟩ := h.holds found
      have known := holds.state_ne_pending
      rw [holds.state_eq] at known
      simp only [MigrationState.ofRecord, Option.map_some, Option.getD_some, known, reduceCtorEq]

theorem pendingOf_eq (h : Recorded rows records) (migrations : List Migration) :
    pendingOf records migrations = rowless rows migrations := by
  apply List.filter_congr
  intro m _
  rw [Bool.eq_iff_iff, decide_eq_true_iff, h.stateOf_eq_pending, List.find?_eq_none]
  simp only [Bool.not_eq_true', List.any_eq_false]

theorem recordOf?_some (h : Recorded rows records) (legible : Legible rows) {row : TrackingRow}
    (inside : row ∈ rows) (own : row.hasId id.text = true) :
    ∃ r, recordOf? records id = some r ∧ row.Holds r := by
  obtain ⟨first, at_id⟩ : ∃ first, rows.find? (·.hasId id.text) = some first :=
    Option.isSome_iff_exists.mp (List.find?_isSome.mpr ⟨row, inside, own⟩)
  cases found : recordOf? records id with
  | none =>
      rw [h.recordOf?_eq_none, at_id] at found
      cases found
  | some r =>
      obtain ⟨other, inside', holds, own'⟩ := h.holds found
      rw [legible.only at_id inside own, ← legible.only at_id inside' own']
      exact ⟨r, rfl, holds⟩

theorem stateOf_eq (h : Recorded rows records) (legible : Legible rows) (id : MigrationId) :
    stateOf records id = stateIn rows id := by
  cases found : rows.find? (·.hasId id.text) with
  | none => rw [h.stateOf_eq_pending.mpr found, legible.stateIn_eq_pending.mpr found]
  | some row =>
      obtain ⟨r, recorded, holds⟩ := h.recordOf?_some legible
        (List.mem_of_find?_eq_some found) (List.find?_some found)
      simp only [stateOf, recorded, MigrationState.ofRecord, Option.map_some, Option.getD_some,
        stateIn, found, holds.state_eq]

theorem drift?_id (h : Recorded rows records) (legible : Legible rows) (m : Migration) :
    (drift? records m).map ChecksumMismatch.id = if hasDrifted rows m then some m.id else none := by
  cases found : rows.find? (·.hasId m.id.text) with
  | none =>
      simp only [drift?, h.recordOf?_eq_none.mpr found, hasDrifted, found, bind, Option.bind_none,
        Option.map_none, Option.any_none, Bool.false_eq_true, if_false]
  | some row =>
      obtain ⟨r, recorded, holds⟩ := h.recordOf?_some legible
        (List.mem_of_find?_eq_some found) (List.find?_some found)
      have completed : (row.status == some completedStatus) = decide (r.status = .completed) := by
        rw [holds.status]
        cases r.status <;> rfl
      simp only [drift?, recorded, hasDrifted, found, Option.any_some, completed, holds.checksum]
      by_cases done : r.status = .completed
      · cases checksum : r.checksum with
        | none => simp [done, checksum]
        | some c => by_cases same : c = m.checksum <;> simp [done, checksum, same]
      · simp [done]

end Recorded

end SchemaMigration
