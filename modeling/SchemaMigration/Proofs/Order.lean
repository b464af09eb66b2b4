import SchemaMigration.Engine.Run

/-! # Ascending ids

A source lists its migrations in strictly ascending order of their ids (`Ascending`), and whatever a run
selects from them is in the same order.
-/

namespace SchemaMigration

/-- Migrations in strictly ascending order of their ids. -/
def Ascending (migrations : List Migration) : Prop :=
  migrations.Pairwise fun a b => a.id < b.id

instance (migrations : List Migration) : Decidable (Ascending migrations) :=
  inferInstanceAs (Decidable (migrations.Pairwise fun a b => a.id < b.id))

namespace Ascending

variable {migrations : List Migration}

theorem distinct (h : Ascending migrations) : (migrations.map Migration.id).Nodup := by
  rw [List.Nodup, List.pairwise_map]
  apply h.imp
  intro a b before same
  rw [same] at before
  exact String.lt_irrefl _ before

theorem eq_of_perm {other : List Migration} (h : Ascending migrations) (h' : Ascending other)
    (perm : migrations.Perm other) : migrations = other :=
  perm.eq_of_pairwise
    (fun _ _ _ _ before after => (String.lt_irrefl _ (String.lt_trans before after)).elim) h h'

theorem select (h : Ascending migrations) (target : RunTarget) :
    Ascending (target.select migrations) := by
  cases target with
  | all => exact h
  | upTo id => exact h.filter _
  | steps n => exact h.take

end Ascending

theorem RunTarget.select_sublist (target : RunTarget) (migrations : List Migration) :
    (target.select migrations).Sublist migrations := by
  cases target with
  | all => exact .refl _
  | upTo id => exact List.filter_sublist
  | steps n => exact List.take_sublist n _

theorem RunTarget.mem_of_select {target : RunTarget} {migrations : List Migration} {m : Migration}
    (inside : m ∈ target.select migrations) : m ∈ migrations :=
  (target.select_sublist migrations).subset inside

/-- In sorted migrations, equal ids are neighbours. -/
theorem ascending_of_sorted {migrations : List Migration}
    (sorted : migrations.Pairwise fun a b => a.id ≤ b.id)
    (single : adjacentDuplicate? migrations = none) : Ascending migrations := by
  induction migrations with
  | nil => exact .nil
  | cons a rest ih =>
      rw [List.pairwise_cons] at sorted
      have later : Ascending rest := by
        apply ih sorted.2
        cases rest with
        | nil => rfl
        | cons b others =>
            unfold adjacentDuplicate? at single
            split at single
            · cases single
            · exact single
      refine List.pairwise_cons.mpr ⟨fun b inside => ?_, later⟩
      cases rest with
      | nil => cases inside
      | cons c others =>
          have different : a.id ≠ c.id := by
            intro same
            simp only [adjacentDuplicate?, same, if_true, reduceCtorEq] at single
          have first : a.id < c.id := by
            apply String.not_le.mp
            intro not_before
            exact different (MigrationId.ext_text
              (String.le_antisymm (sorted.1 c List.mem_cons_self) not_before))
          rcases List.mem_cons.mp inside with rfl | inside
          · exact first
          · exact String.lt_trans first ((List.pairwise_cons.mp later).1 b inside)

theorem sorted_by_id (found : List Migration) :
    (found.mergeSort fun a b => a.id ≤ b.id).Pairwise fun a b => a.id ≤ b.id := by
  apply List.Pairwise.imp of_decide_eq_true
  apply List.pairwise_mergeSort
  · intro a b c first second
    rw [decide_eq_true_iff] at first second ⊢
    exact String.le_trans first second
  · intro a b
    rw [Bool.or_eq_true, decide_eq_true_iff, decide_eq_true_iff]
    exact String.le_total a.id.text b.id.text

theorem ascending_of_inOrder {found listed : List Migration} (h : inOrder found = .ok listed) :
    Ascending listed := by
  simp only [inOrder] at h
  split at h
  · cases h
  · rename_i single
    cases h
    exact ascending_of_sorted (sorted_by_id found) single

theorem adjacentDuplicate?_of_distinct {migrations : List Migration}
    (distinct : (migrations.map Migration.id).Nodup) : adjacentDuplicate? migrations = none := by
  induction migrations with
  | nil => rfl
  | cons a rest ih =>
      obtain ⟨fresh, later⟩ := List.nodup_cons.mp distinct
      cases rest with
      | nil => rfl
      | cons b others =>
          have different : a.id ≠ b.id := fun same => fresh (same ▸ List.mem_cons_self)
          rw [adjacentDuplicate?, if_neg different, ih later]

theorem inOrder_of_ascending {migrations : List Migration} (h : Ascending migrations) :
    inOrder migrations = .ok migrations := by
  have sorted : migrations.mergeSort (fun a b => a.id ≤ b.id) = migrations := by
    apply List.mergeSort_of_pairwise
    apply List.Pairwise.imp _ h
    intro a b before
    rw [decide_eq_true_iff]
    exact String.not_lt.mp fun after => String.lt_irrefl _ (String.lt_trans before after)
  simp only [inOrder, sorted, adjacentDuplicate?_of_distinct h.distinct]

theorem Source.list_ascending {s : Source} {listed : List Migration} (h : s.list = .ok listed) :
    Ascending listed := by
  cases s with
  | registry migrations => exact ascending_of_inOrder h
  | embedded units =>
      simp only [Source.list, EmbeddedUnit.list, bind, Except.bind] at h
      split at h
      · cases h
      · exact ascending_of_inOrder h
  | directory tree root =>
      simp only [Source.list, MigrationDirectory.list] at h
      split at h
      · simp only [MigrationDirectory.listEntries, bind, Except.bind] at h
        split at h
        · cases h
        · exact ascending_of_inOrder h
      · cases h

end SchemaMigration
