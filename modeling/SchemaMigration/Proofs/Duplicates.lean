import SchemaMigration.Proofs.Sources
import SchemaMigration.Proofs.TextOrder

/-! # Any order of registration

Migrations are put in order by a sort, after which equal ids are neighbours, and the first two equal
neighbours have the smallest id that occurs twice (`FirstRepeated`). So neither the list nor the id of a
refusal tells in which order the migrations were registered.
-/

namespace SchemaMigration

/-- An id that occurs more than once, and is not greater than any other that does. -/
structure FirstRepeated (ids : List MigrationId) (id : MigrationId) : Prop where
  repeated : 2 ≤ ids.count id
  first : ∀ other, 2 ≤ ids.count other → id.bytes ≤ other.bytes

namespace FirstRepeated

variable {ids ids' : List MigrationId} {id id' : MigrationId}

theorem perm (h : FirstRepeated ids id) (same : ids.Perm ids') : FirstRepeated ids' id where
  repeated := same.count_eq id ▸ h.repeated
  first other twice := h.first other ((same.count_eq other).symm ▸ twice)

theorem unique (h : FirstRepeated ids id) (h' : FirstRepeated ids id') : id = id' := by
  have before := MigrationId.bytes_le_iff.mp (h.first id' h'.repeated)
  have after := MigrationId.bytes_le_iff.mp (h'.first id h.repeated)
  exact MigrationId.ext_text (String.le_antisymm before after)

end FirstRepeated

theorem idsOf_perm {found other : List Migration} (perm : found.Perm other) :
    (idsOf found).Perm (idsOf other) :=
  perm.map Migration.id

theorem fresh_of_sorted {a b : Migration} {others : List Migration}
    (sorted : (a :: b :: others).Pairwise fun a b => a.id ≤ b.id) (different : a.id ≠ b.id) :
    a.id ∉ idsOf (b :: others) := by
  obtain ⟨first, later⟩ := List.pairwise_cons.mp sorted
  intro again
  obtain ⟨m, inside, same⟩ := List.mem_map.mp again
  have reached : b.id ≤ a.id := by
    rcases List.mem_cons.mp inside with rfl | beyond
    · exact same ▸ String.le_refl _
    · exact same ▸ (List.pairwise_cons.mp later).1 m beyond
  exact different (MigrationId.ext_text (String.le_antisymm (first b List.mem_cons_self) reached))

/-- In sorted migrations, the first id next to itself is the first that occurs more than once. -/
theorem firstRepeated_of_adjacent {migrations : List Migration} {id : MigrationId}
    (sorted : migrations.Pairwise fun a b => a.id ≤ b.id)
    (adjacent : adjacentDuplicate? migrations = some id) : FirstRepeated (idsOf migrations) id := by
  induction migrations with
  | nil => cases adjacent
  | cons a rest ih =>
      cases rest with
      | nil => cases adjacent
      | cons b others =>
          obtain ⟨first, later⟩ := List.pairwise_cons.mp sorted
          by_cases same : a.id = b.id
          · rw [adjacentDuplicate?, if_pos same, Option.some.injEq] at adjacent
            subst adjacent
            refine ⟨by simp [idsOf, ← same], fun other twice => MigrationId.bytes_le_iff.mpr ?_⟩
            have inside : other ∈ idsOf (a :: b :: others) :=
              List.count_pos_iff.mp (Nat.lt_of_lt_of_le Nat.zero_lt_two twice)
            obtain ⟨m, known, rfl⟩ := List.mem_map.mp inside
            rcases List.mem_cons.mp known with rfl | beyond
            · exact String.le_refl _
            · exact first m beyond
          · rw [adjacentDuplicate?, if_neg same] at adjacent
            have rest := ih later adjacent
            have fresh := fresh_of_sorted sorted same
            have elsewhere {other : MigrationId} (twice : 2 ≤ (idsOf (a :: b :: others)).count other) :
                2 ≤ (idsOf (b :: others)).count other := by
              have different : a.id ≠ other := by
                rintro rfl
                rw [idsOf, List.map_cons, List.count_cons_self] at twice
                have none : (idsOf (b :: others)).count a.id = 0 := List.count_eq_zero.mpr fresh
                rw [idsOf] at none
                omega
              rwa [idsOf, List.map_cons, List.count_cons_of_ne different] at twice
            exact ⟨rest.repeated.trans List.count_le_count_cons,
              fun other twice => rest.first other (elsewhere twice)⟩

/-- What comes of migrations that are put in order: all of them in ascending order of the bytes of their
    ids, unless ids occur twice, and then the one that is `FirstRepeated`. -/
structure PutsInOrder (found : List Migration)
    (result : Except DiscoveryError (List Migration)) : Prop where
  succeeds : (∃ listed, result = .ok listed) ↔ (idsOf found).Nodup
  listed : ∀ listed, result = .ok listed →
    listed.Perm found ∧ listed.Pairwise fun a b => a.id.bytes < b.id.bytes
  refused : ¬(idsOf found).Nodup →
    ∃ id, FirstRepeated (idsOf found) id ∧ result = .error (.duplicateId id)

theorem inOrder_of_repeated {found : List Migration} (repeated : ¬(idsOf found).Nodup) :
    ∃ id, FirstRepeated (idsOf found) id ∧ inOrder found = .error (.duplicateId id) := by
  have perm : (found.mergeSort fun a b => a.id ≤ b.id).Perm found := List.mergeSort_perm ..
  have sorted := sorted_by_id found
  cases adjacent : adjacentDuplicate? (found.mergeSort fun a b => a.id ≤ b.id) with
  | none =>
      have distinct := (ascending_of_sorted sorted adjacent).distinct
      exact absurd ((idsOf_perm perm).nodup_iff.mp distinct) repeated
  | some id =>
      refine ⟨id, (firstRepeated_of_adjacent sorted adjacent).perm (idsOf_perm perm), ?_⟩
      simp only [inOrder, adjacent]

theorem putsInOrder (found : List Migration) : PutsInOrder found (inOrder found) := by
  by_cases distinct : (idsOf found).Nodup
  · obtain ⟨listed, ordered, perm⟩ := inOrder_of_distinct distinct
    refine ⟨iff_of_true ⟨listed, ordered⟩ distinct, fun other same => ?_, absurd distinct⟩
    obtain rfl : listed = other := Except.ok.inj (ordered.symm.trans same)
    exact ⟨perm, (ascending_of_inOrder ordered).imp MigrationId.bytes_lt_iff.mpr⟩
  · obtain ⟨id, first, refused⟩ := inOrder_of_repeated distinct
    have no_list (listed : List Migration) : inOrder found ≠ .ok listed := by simp [refused]
    exact ⟨iff_of_false (fun ⟨listed, ordered⟩ => no_list listed ordered) distinct,
      fun listed ordered => (no_list listed ordered).elim, fun _ => ⟨id, first, refused⟩⟩

theorem inOrder_of_perm {found shuffled : List Migration} (perm : shuffled.Perm found) :
    inOrder shuffled = inOrder found := by
  by_cases distinct : (idsOf found).Nodup
  · obtain ⟨listed, ordered, same⟩ := inOrder_of_distinct distinct
    obtain ⟨other, ordered', same'⟩ := inOrder_of_distinct ((idsOf_perm perm).nodup_iff.mpr distinct)
    rw [ordered, ordered', (ascending_of_inOrder ordered').eq_of_perm (ascending_of_inOrder ordered)
      (same'.trans (perm.trans same.symm))]
  · obtain ⟨id, first, refused⟩ := inOrder_of_repeated distinct
    obtain ⟨other, first', refused'⟩ :=
      inOrder_of_repeated (mt (idsOf_perm perm).nodup_iff.mp distinct)
    rw [refused, refused', (first'.perm (idsOf_perm perm)).unique first]

/-- A unit that a migration can be made of: it has content, and its id is valid. -/
structure EmbeddedUnit.IsWhole (u : EmbeddedUnit) : Prop where
  content : u.hasContent = true
  valid : u.id ≠ "" ∧ Text.trim u.id = u.id

namespace EmbeddedUnit

theorem toMigration_of_whole {u : EmbeddedUnit} (whole : u.IsWhole) : ∃ m, u.toMigration = .ok m := by
  simp only [toMigration, MigrationId.ofText?, dif_pos whole.valid, Except.ok.injEq, exists_eq']

theorem list_of_loaded {units : List EmbeddedUnit} {found : List Migration}
    (whole : ∀ u ∈ units, u.IsWhole) (loaded : units.mapM toMigration = .ok found) :
    EmbeddedUnit.list units = inOrder found := by
  have kept : units.filter hasContent = units :=
    List.filter_eq_self.mpr fun u inside => (whole u inside).content
  simp only [EmbeddedUnit.list, kept, loaded, bind, Except.bind]

end EmbeddedUnit

/-- Migrations are listed in ascending order, each once, exactly if no id occurs twice, and otherwise the
    smallest id that does is named (`FirstRepeated`); and it makes no difference in which order they, or
    the bundled units that they are made of, were registered. -/
theorem registered_in_any_order :
    (∀ found, PutsInOrder found (inOrder found) ∧ (Source.registry found).list = inOrder found ∧
      ∀ shuffled, shuffled.Perm found → inOrder shuffled = inOrder found) ∧
    ∀ units : List EmbeddedUnit, (∀ u ∈ units, u.IsWhole) →
      (∃ found, List.Forall₂ EmbeddedUnit.StandsFor units found ∧
        (Source.embedded units).list = inOrder found) ∧
      ∀ shuffled, shuffled.Perm units →
        (Source.embedded shuffled).list = (Source.embedded units).list := by
  refine ⟨fun found => ⟨putsInOrder found, rfl, fun _ perm => inOrder_of_perm perm⟩,
    fun units whole => ?_⟩
  obtain ⟨found, loaded⟩ := exists_mapM_ok fun u inside =>
    EmbeddedUnit.toMigration_of_whole (whole u inside)
  have listed : (Source.embedded units).list = inOrder found := EmbeddedUnit.list_of_loaded whole loaded
  refine ⟨⟨found, ?_, listed⟩, fun shuffled perm => ?_⟩
  · exact (forall₂_of_mapM_ok loaded).imp fun _ _ made => EmbeddedUnit.standsFor_of_loaded made
  · obtain ⟨found', loaded', same⟩ := mapM_of_perm perm loaded
    have whole' : ∀ u ∈ shuffled, u.IsWhole := fun u inside => whole u (perm.mem_iff.mp inside)
    calc (Source.embedded shuffled).list
        = inOrder found' := EmbeddedUnit.list_of_loaded whole' loaded'
      _ = inOrder found := inOrder_of_perm same
      _ = (Source.embedded units).list := listed.symm

/-- Three ids stand twice, one of them a beginning of another; every order of them is refused for the
    same one. -/
theorem registered_in_any_order_doubled :
    let named (id : MigrationId) : Migration := ⟨id, none, .sql "", none⟩
    let short : MigrationId := ⟨"a", by decide⟩
    let first : MigrationId := ⟨"ab", by decide⟩
    let second : MigrationId := ⟨"abc", by decide⟩
    let accented : MigrationId := ⟨"é", by decide⟩
    let found := [accented, second, first, accented, short, second, first].map named
    ∀ shuffled, shuffled.Perm found → (Source.registry shuffled).list = .error (.duplicateId first) := by
  intro named short first second accented found shuffled perm
  obtain ⟨puts, -, any⟩ := registered_in_any_order.1 found
  have among : ∀ other ∈ idsOf found, 2 ≤ (idsOf found).count other → first ≤ other := by decide
  have smallest : FirstRepeated (idsOf found) first := by
    refine ⟨by decide, fun other twice => MigrationId.bytes_le_iff.mpr ?_⟩
    exact among other (List.count_pos_iff.mp (Nat.lt_of_lt_of_le Nat.zero_lt_two twice)) twice
  obtain ⟨id, first', refused⟩ := puts.refused (by decide)
  obtain rfl := first'.unique smallest
  exact (any shuffled perm).trans refused

end SchemaMigration
