import SchemaMigration.Proofs.Order
import SchemaMigration.Proofs.Records

/-! # The order of completion

Rollbacks go by the times at which migrations were completed, the latest first; where times are the same,
the greater id comes first. That order, `finishedNotBefore`, is one of rows, whatever is in their
columns, so that sorting puts any rows into it.
-/

namespace SchemaMigration

namespace Timestamp

variable {a b c : Timestamp}

theorem notLater_total (a b : Timestamp) : a.notLater b = true ∨ b.notLater a = true := by
  cases a <;> cases b <;> simp [notLater]
  omega

theorem notLater_trans (first : a.notLater b = true) (second : b.notLater c = true) :
    a.notLater c = true := by
  cases a <;> cases b <;> cases c <;> simp_all [notLater]
  omega

theorem notLater_antisymm (first : a.notLater b = true) (second : b.notLater a = true) : a = b := by
  cases a <;> cases b <;> simp_all [notLater]
  omega

end Timestamp

/-- A time of completion is later than another one; every time is later than none. -/
def Timestamp.Later : Option Timestamp → Option Timestamp → Prop
  | some x, some y => y.notLater x = true ∧ x ≠ y
  | some _, none => True
  | none, _ => False

theorem Timestamp.Later.trans {x y z : Option Timestamp} (first : Later x y) (second : Later y z) :
    Later x z := by
  cases x with
  | none => exact first
  | some x =>
      cases z with
      | none => trivial
      | some z =>
          cases y with
          | none => exact second.elim
          | some y =>
              refine ⟨notLater_trans second.1 first.1, ?_⟩
              rintro rfl
              exact first.2 (notLater_antisymm second.1 first.1)

theorem Timestamp.Later.irrefl {x : Option Timestamp} (h : Later x x) : False := by
  cases x with
  | none => exact h
  | some x => exact h.2 rfl

theorem Timestamp.later_trichotomy (x y : Option Timestamp) : Later x y ∨ x = y ∨ Later y x := by
  cases x with
  | none =>
      cases y with
      | none => exact .inr (.inl rfl)
      | some y => exact .inr (.inr trivial)
  | some x =>
      cases y with
      | none => exact .inl trivial
      | some y =>
          by_cases same : x = y
          · exact .inr (.inl (congrArg some same))
          · rcases notLater_total x y with before | after
            · exact .inr (.inr ⟨before, Ne.symm same⟩)
            · exact .inl ⟨after, same⟩

namespace TrackingRow

variable {a b c : TrackingRow}

theorem idDescending_total (a b : TrackingRow) :
    finishedNotBefore.idDescending a b = true ∨ finishedNotBefore.idDescending b a = true := by
  unfold finishedNotBefore.idDescending
  cases a.id <;> cases b.id <;> simp [String.le_total]

theorem idDescending_trans (first : finishedNotBefore.idDescending a b = true)
    (second : finishedNotBefore.idDescending b c = true) :
    finishedNotBefore.idDescending a c = true := by
  unfold finishedNotBefore.idDescending at *
  cases ida : a.id <;> cases idb : b.id <;> cases idc : c.id <;> simp_all
  exact String.le_trans second first

/-- Rows go by their times first and by their ids second. -/
theorem finishedNotBefore_iff : a.finishedNotBefore b = true ↔
    Timestamp.Later a.finishedAt b.finishedAt ∨
      a.finishedAt = b.finishedAt ∧ finishedNotBefore.idDescending a b = true := by
  unfold finishedNotBefore
  cases a.finishedAt with
  | none => cases b.finishedAt <;> simp [Timestamp.Later]
  | some x =>
      cases b.finishedAt with
      | none => simp [Timestamp.Later]
      | some y => by_cases same : x = y <;> simp [Timestamp.Later, same]

theorem finishedNotBefore_total (a b : TrackingRow) :
    a.finishedNotBefore b = true ∨ b.finishedNotBefore a = true := by
  rw [finishedNotBefore_iff, finishedNotBefore_iff]
  rcases Timestamp.later_trichotomy a.finishedAt b.finishedAt with later | same | earlier
  · exact .inl (.inl later)
  · exact (idDescending_total a b).imp (.inr ⟨same, ·⟩) (.inr ⟨same.symm, ·⟩)
  · exact .inr (.inl earlier)

theorem finishedNotBefore_trans (first : a.finishedNotBefore b = true)
    (second : b.finishedNotBefore c = true) : a.finishedNotBefore c = true := by
  rw [finishedNotBefore_iff] at *
  rcases first with later | ⟨same, ids⟩
  · rcases second with later' | ⟨same', -⟩
    · exact .inl (later.trans later')
    · exact .inl (same' ▸ later)
  · rw [same]
    rcases second with later' | ⟨same', ids'⟩
    · exact .inl later'
    · exact .inr ⟨same', idDescending_trans ids ids'⟩

theorem not_notBefore_of_later (later : Timestamp.Later a.finishedAt b.finishedAt) :
    ¬b.finishedNotBefore a = true := by
  rw [finishedNotBefore_iff]
  rintro (earlier | ⟨same, -⟩)
  · exact (later.trans earlier).irrefl
  · rw [same] at later
    exact later.irrefl

end TrackingRow

def completedRows (rows : List TrackingRow) : List TrackingRow :=
  (rows.filter (·.status == some completedStatus)).mergeSort TrackingRow.finishedNotBefore

theorem mem_completedRows {rows : List TrackingRow} {row : TrackingRow} :
    row ∈ completedRows rows ↔ row ∈ rows ∧ row.status = some completedStatus := by
  rw [completedRows, List.mem_mergeSort, List.mem_filter, beq_iff_eq]

theorem completedRows_sorted (rows : List TrackingRow) :
    (completedRows rows).Pairwise fun a b => a.finishedNotBefore b = true := by
  apply List.pairwise_mergeSort
  · exact fun _ _ _ => TrackingRow.finishedNotBefore_trans
  · intro a b
    rw [Bool.or_eq_true]
    exact a.finishedNotBefore_total b

theorem completedRows_unique {rows : List TrackingRow}
    (unique : (rows.map TrackingRow.id).Nodup) :
    ((completedRows rows).map TrackingRow.id).Nodup :=
  ((List.mergeSort_perm _ _).map _).nodup_iff.mpr (unique.sublist (List.filter_sublist.map _))

/-- Sorting puts first what nothing else can come before, in its only order. -/
theorem front_of_sorted {α : Type} {R : α → α → Prop} {front rest sorted : List α}
    (h : sorted.Pairwise R) (perm : sorted.Perm (front ++ rest))
    (strict : front.Pairwise fun a b => ¬R b a) (first : ∀ a ∈ front, ∀ b ∈ rest, ¬R b a) :
    ∃ others, sorted = front ++ others := by
  induction front generalizing sorted with
  | nil => exact ⟨sorted, rfl⟩
  | cons a front ih =>
      rw [List.pairwise_cons] at strict
      cases sorted with
      | nil => cases perm.symm.subset List.mem_cons_self
      | cons head tail =>
          have same : head = a := by
            by_contra different
            have later : a ∈ tail :=
              (List.mem_cons.mp (perm.symm.subset List.mem_cons_self)).resolve_left (Ne.symm different)
            have before : R head a := (List.pairwise_cons.mp h).1 a later
            rcases List.mem_cons.mp (perm.subset List.mem_cons_self) with same | among
            · exact different same
            · rcases List.mem_append.mp among with inside | outside
              · exact strict.1 head inside before
              · exact first a List.mem_cons_self head outside before
          subst same
          obtain ⟨others, rfl⟩ := ih (List.pairwise_cons.mp h).2 perm.cons_inv strict.2
            fun b inside => first b (List.mem_cons_of_mem head inside)
          exact ⟨others, rfl⟩

theorem ids_of_decoded {rows : List TrackingRow} {records : List MigrationRecord}
    (h : rows.mapM Tracker.decodeRow = .ok records) :
    rows.map TrackingRow.id = (records.map MigrationRecord.id).map fun id => some id.text := by
  have pairs := forall₂_of_mapM_ok h
  clear h
  induction pairs with
  | nil => rfl
  | cons first _ ih =>
      rw [List.map_cons, List.map_cons, List.map_cons, (Tracker.holds_of_decodeRow first).id, ih]

end SchemaMigration
