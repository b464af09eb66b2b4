import Mathlib.Data.List.DropRight
import SchemaMigration.Text.Blank

/-! # Blanks at the ends of texts

Trimming leaves a text as it is exactly if no blank stands at either end. Trimming at the end only takes
blanks away from the end, and all of them.
-/

namespace SchemaMigration.Text

def TrimmedEnd (text : String) : Prop :=
  ∀ c ∈ text.toList.getLast?, isBlank c = false

def Trimmed (text : String) : Prop :=
  (∀ c ∈ text.toList.head?, isBlank c = false) ∧ TrimmedEnd text

theorem dropTrailingBlanks_eq (cs : List Char) : dropTrailingBlanks cs = cs.rdropWhile isBlank := rfl

theorem dropWhile_isBlank_eq_self_iff {cs : List Char} :
    cs.dropWhile isBlank = cs ↔ ∀ c ∈ cs.head?, isBlank c = false := by
  cases cs with
  | nil => simp
  | cons c cs => simp

theorem dropTrailingBlanks_eq_self_iff {cs : List Char} :
    dropTrailingBlanks cs = cs ↔ ∀ c ∈ cs.getLast?, isBlank c = false := by
  rw [dropTrailingBlanks, List.reverse_eq_iff, dropWhile_isBlank_eq_self_iff, List.head?_reverse]

theorem trim_eq_self_iff {text : String} : trim text = text ↔ Trimmed text := by
  have chars : trim text = text ↔ dropTrailingBlanks (text.toList.dropWhile isBlank) = text.toList := by
    rw [trim, ← String.toList_inj, String.toList_ofList]
  rw [chars, Trimmed, TrimmedEnd]
  generalize text.toList = cs
  constructor
  · intro kept
    -- What is kept of the text is no longer than what is kept at its front, so nothing went there.
    have front : cs.dropWhile isBlank = cs := by
      apply (List.dropWhile_sublist isBlank).antisymm
      have inside := (List.rdropWhile_prefix isBlank (cs.dropWhile isBlank)).sublist
      rwa [← dropTrailingBlanks_eq, kept] at inside
    rw [front] at kept
    exact ⟨dropWhile_isBlank_eq_self_iff.mp front, dropTrailingBlanks_eq_self_iff.mp kept⟩
  · rintro ⟨first, last⟩
    rw [dropWhile_isBlank_eq_self_iff.mpr first, dropTrailingBlanks_eq_self_iff.mpr last]

theorem trimEnd_trimmedEnd (text : String) : TrimmedEnd (trimEnd text) := by
  rw [TrimmedEnd, trimEnd, String.toList_ofList, ← dropTrailingBlanks_eq_self_iff]
  exact List.rdropWhile_idempotent isBlank text.toList

theorem trimEnd_append (text : String) :
    ∃ blanks, (∀ c ∈ blanks, isBlank c = true) ∧ text.toList = (trimEnd text).toList ++ blanks := by
  refine ⟨text.toList.rtakeWhile isBlank, fun c inside => List.mem_rtakeWhile_imp inside, ?_⟩
  rw [trimEnd, String.toList_ofList, dropTrailingBlanks_eq, List.rdropWhile_append_rtakeWhile]

theorem prefix_of_prefix_append {cs front blanks : List Char} (begins : cs <+: front ++ blanks)
    (blank : ∀ c ∈ blanks, isBlank c = true) (visible : ∀ c ∈ cs.getLast?, isBlank c = false) :
    cs <+: front := by
  rcases Nat.le_total cs.length front.length with short | long
  · exact List.prefix_of_prefix_length_le begins (List.prefix_append front blanks) short
  obtain ⟨beyond, rfl⟩ := List.prefix_of_prefix_length_le (List.prefix_append front blanks) begins long
  have among : beyond <+: blanks := (List.prefix_append_right_inj front).mp begins
  cases last : beyond.getLast? with
  | none =>
      have nothing : beyond = [] := List.getLast?_eq_none_iff.mp last
      simp [nothing]
  | some c =>
      have hidden := blank c (among.subset (List.mem_of_getLast? last))
      rw [visible c (by rw [List.getLast?_append, last]; rfl)] at hidden
      cases hidden

end SchemaMigration.Text
