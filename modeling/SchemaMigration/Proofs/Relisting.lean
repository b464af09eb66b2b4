import Mathlib.Data.List.Perm.Basic
import SchemaMigration.FileTree.Basic

/-! # Listing orders

A directory lists its entries in some order, and the order can be another one the next time. What a name
leads to is the same, as long as no name stands twice, and so is the text of every file below it.
-/

namespace SchemaMigration

/-- Where no key stands twice, look-up is membership. -/
theorem lookup_eq_some_iff {α β : Type} [BEq α] [LawfulBEq α] {entries : List (α × β)}
    (distinct : (entries.map Prod.fst).Nodup) {key : α} {value : β} :
    entries.lookup key = some value ↔ (key, value) ∈ entries := by
  induction entries with
  | nil => simp
  | cons entry rest ih =>
      obtain ⟨fresh, later⟩ := List.nodup_cons.mp distinct
      rw [List.lookup_cons, List.mem_cons]
      cases same : key == entry.1 with
      | true =>
          obtain rfl := eq_of_beq same
          have absent : (entry.1, value) ∉ rest := fun inside =>
            fresh (List.mem_map.mpr ⟨_, inside, rfl⟩)
          simp only [absent, or_false, Option.some.injEq, Prod.ext_iff, true_and, eq_comm]
      | false =>
          have different : (key, value) ≠ entry := by
            rintro rfl
            simp at same
          simp only [ih later, different, false_or]

theorem lookup_perm {α β : Type} [BEq α] [LawfulBEq α] {entries entries' : List (α × β)}
    (distinct : (entries.map Prod.fst).Nodup) (perm : entries.Perm entries') (key : α) :
    entries'.lookup key = entries.lookup key := by
  have distinct' : (entries'.map Prod.fst).Nodup := (perm.map Prod.fst).nodup_iff.mp distinct
  apply Option.ext
  intro value
  rw [lookup_eq_some_iff distinct, lookup_eq_some_iff distinct', perm.mem_iff]

instance lawfulBEqBytes : LawfulBEq ByteArray where
  eq_of_beq same := ByteArray.ext (eq_of_beq same)
  rfl {bytes} := beq_self_eq_true bytes.data

namespace Node

/-- The same entry of a file tree, with directories in and below it that list their entries in other
    orders. -/
inductive Relisted : Node → Node → Prop
  | refl (n : Node) : Relisted n n
  | reorder {entries entries' : List (ByteArray × Node)} (distinct : (entries.map Prod.fst).Nodup)
      (perm : entries.Perm entries') : Relisted (.directory entries) (.directory entries')
  | within (before : List (ByteArray × Node)) (name : ByteArray) {n n' : Node} (inner : Relisted n n')
      (after : List (ByteArray × Node)) :
      Relisted (.directory (before ++ (name, n) :: after)) (.directory (before ++ (name, n') :: after))
  | trans {a b c : Node} (first : Relisted a b) (second : Relisted b c) : Relisted a c

namespace Relisted

variable {n n' : Node}

theorem isDirectory_eq (h : n.Relisted n') : n'.isDirectory = n.isDirectory := by
  induction h with
  | refl => rfl
  | reorder => rfl
  | within => rfl
  | trans _ _ ih ih' => rw [ih', ih]

theorem readText_eq (h : n.Relisted n') : n'.readText = n.readText := by
  induction h with
  | refl => rfl
  | reorder => rfl
  | within => rfl
  | trans _ _ ih ih' => rw [ih', ih]

theorem child? (h : n.Relisted n') (name : ByteArray) :
    Option.Rel Relisted (n.child? name) (n'.child? name) := by
  induction h with
  | refl n =>
      cases n.child? name with
      | none => exact .none
      | some child => exact .some (.refl child)
  | @reorder entries entries' distinct perm =>
      have same : (directory entries').child? name = (directory entries).child? name :=
        lookup_perm distinct perm name
      rw [same]
      cases (directory entries).child? name with
      | none => exact .none
      | some child => exact .some (.refl child)
  | within before other inner after =>
      simp only [Node.child?, entries?, Option.bind_some, List.lookup_append, List.lookup_cons]
      cases before.lookup name with
      | some child => exact .some (.refl child)
      | none =>
          cases name == other with
          | true => exact .some inner
          | false =>
              cases after.lookup name with
              | none => exact .none
              | some child => exact .some (.refl child)
  | @trans a b c _ _ ih ih' =>
      generalize b.child? name = between at ih ih'
      generalize a.child? name = start at ih
      generalize c.child? name = finish at ih'
      cases ih with
      | none => exact ih'
      | some first =>
          cases ih' with
          | some second => exact .some (first.trans second)

end Relisted

end Node

end SchemaMigration
