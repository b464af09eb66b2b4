import Mathlib.Data.List.Basic
import SchemaMigration.Cli.Prompt

/-! # Lines and answers

Which part of an input is its `FirstLine`, and which lines say yes (`SaysYes`). Nothing else decides on
the answer to a question: a line that does not hold a text, or holds any other text, does not say yes.
-/

namespace SchemaMigration.Cli

/-- An input parted into its first line, with the line break, and what is behind it. The last line may
    have no line break. -/
inductive FirstLine : (input line rest : List UInt8) → Prop
  | broken (text rest : List UInt8) (whole : 0x0A ∉ text) :
      FirstLine (text ++ 0x0A :: rest) (text ++ [0x0A]) rest
  | last (text : List UInt8) (whole : 0x0A ∉ text) : FirstLine text text []

theorem splitLine_sound (input : List UInt8) :
    FirstLine input (splitLine input).1 (splitLine input).2 := by
  fun_induction splitLine input with
  | case1 => exact .last [] List.not_mem_nil
  | case2 rest => exact .broken [] rest List.not_mem_nil
  | case3 b input other line rest parted ih =>
      rw [parted] at ih
      have within {text : List UInt8} (whole : 0x0A ∉ text) : 0x0A ∉ b :: text :=
        List.not_mem_cons_of_ne_of_not_mem (Ne.symm other) whole
      cases ih with
      | broken text _ whole => exact .broken (b :: text) rest (within whole)
      | last _ whole => exact .last _ (within whole)

theorem splitLine_complete {input line rest : List UInt8} (h : FirstLine input line rest) :
    splitLine input = (line, rest) := by
  cases h with
  | broken text _ whole =>
      induction text with
      | nil => rfl
      | cons b text ih =>
          obtain ⟨other, whole⟩ := List.ne_and_not_mem_of_not_mem_cons whole
          simp only [List.cons_append, splitLine, if_neg (Ne.symm other), ih whole]
  | last _ whole =>
      induction input with
      | nil => rfl
      | cons b text ih =>
          obtain ⟨other, whole⟩ := List.ne_and_not_mem_of_not_mem_cons whole
          simp only [splitLine, if_neg (Ne.symm other), ih whole]

theorem FirstLine.iff_splitLine {input line rest : List UInt8} :
    FirstLine input line rest ↔ splitLine input = (line, rest) := by
  refine ⟨splitLine_complete, fun same => ?_⟩
  have sound := splitLine_sound input
  rwa [same] at sound

def yesWords : List String :=
  ["y", "Y", "yes", "yeS", "yEs", "yES", "Yes", "YeS", "YEs", "YES"]

theorem toLower_eq_iff {small capital : Char} (pair : small.toNat = capital.toNat + 32)
    (upper : 65 ≤ capital.toNat ∧ capital.toNat ≤ 90) {c : Char} :
    c.toLower = small ↔ c = small ∨ c = capital := by
  have exact_codes (a b : Char) : a = b ↔ a.toNat = b.toNat := by
    rw [Char.ext_iff, ← UInt32.toNat_inj]
    rfl
  rw [exact_codes, exact_codes, exact_codes]
  unfold Char.toLower
  split
  · rename_i capital_too
    obtain ⟨low, high⟩ := capital_too
    have low : 65 ≤ c.toNat := low
    have high : c.toNat ≤ 90 := high
    have moved : (c.val + ('a'.val - 'A'.val)).toNat = c.toNat + 32 := by
      rw [UInt32.toNat_add]
      exact Nat.mod_eq_of_lt (by change c.toNat + 32 < _; omega)
    change (c.val + ('a'.val - 'A'.val)).toNat = _ ↔ _
    omega
  · rename_i other
    have outside : ¬(65 ≤ c.toNat ∧ c.toNat ≤ 90) := other
    omega

theorem isYes_iff {answer : String} : isYes answer = true ↔ answer ∈ yesWords := by
  have y {c : Char} : c.toLower = 'y' ↔ c = 'y' ∨ c = 'Y' := toLower_eq_iff rfl (by decide)
  have e {c : Char} : c.toLower = 'e' ↔ c = 'e' ∨ c = 'E' := toLower_eq_iff rfl (by decide)
  have s {c : Char} : c.toLower = 's' ↔ c = 's' ∨ c = 'S' := toLower_eq_iff rfl (by decide)
  have words : answer ∈ yesWords ↔ answer.toList ∈ yesWords.map String.toList :=
    (List.mem_map_of_injective fun _ _ => String.toList_inj.mp).symm
  rw [words]
  simp only [isYes, Bool.or_eq_true, decide_eq_true_eq, List.map_eq_cons_iff, List.map_eq_nil_iff, y,
    e, s, yesWords, List.map_cons, List.map_nil, String.reduceToList, List.mem_cons,
    List.not_mem_nil, or_false]
  constructor
  · rintro (⟨a, _, same, rfl | rfl, rfl⟩ | ⟨a, _, same, rfl | rfl, b, _, rfl, rfl | rfl, c, _, rfl,
      rfl | rfl, rfl⟩) <;> simp [same]
  · rintro (same | same | same | same | same | same | same | same | same | same) <;> simp [same]

/-- A line says yes: it holds one of the `yesWords` when the blanks around it are taken off. -/
def SaysYes (line : List UInt8) : Prop :=
  ∃ text, String.fromUTF8? line.toByteArray = some text ∧ Text.trim text ∈ yesWords

theorem answerOf_eq_ok {line : List UInt8} {answer : String} : answerOf line = .ok answer ↔
    ∃ text, String.fromUTF8? line.toByteArray = some text ∧ Text.trim text = answer := by
  unfold answerOf
  cases String.fromUTF8? line.toByteArray <;> simp

theorem saysYes_iff {line : List UInt8} :
    SaysYes line ↔ ∃ answer, answerOf line = .ok answer ∧ isYes answer = true := by
  constructor
  · rintro ⟨text, holds, yes⟩
    exact ⟨_, answerOf_eq_ok.mpr ⟨text, holds, rfl⟩, isYes_iff.mpr yes⟩
  · rintro ⟨_, answered, yes⟩
    obtain ⟨text, holds, rfl⟩ := answerOf_eq_ok.mp answered
    exact ⟨text, holds, isYes_iff.mp yes⟩

end SchemaMigration.Cli
