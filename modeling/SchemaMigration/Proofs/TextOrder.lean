import Mathlib.Tactic.SplitIfs
import SchemaMigration.Proofs.Fingerprints

/-! # The order of texts

Texts are compared character by character, by code points. Their UTF-8 bytes compare in the same way:
the first byte in which the encodings of two characters differ is smaller for the smaller of them, and no
encoding is a beginning of another one. So the order of ids is the order of the bytes they are stored as.
-/

namespace SchemaMigration

theorem digit_lt {m n : Nat} (lower : m < n) :
    m / 64 < n / 64 ∨ m / 64 = n / 64 ∧ m % 64 < n % 64 := by
  omega

/-- The smaller of two numbers is smaller at the first of four places where they differ. -/
theorem digits_lt {m n : Nat} (lower : m < n) :
    m / 262144 < n / 262144 ∨ m / 262144 = n / 262144 ∧
      (m / 4096 % 64 < n / 4096 % 64 ∨ m / 4096 % 64 = n / 4096 % 64 ∧
        (m / 64 % 64 < n / 64 % 64 ∨ m / 64 % 64 = n / 64 % 64 ∧ m % 64 < n % 64)) := by
  have nested (k : Nat) : k / 4096 = k / 64 / 64 ∧ k / 262144 = k / 64 / 64 / 64 := by omega
  rw [(nested m).1, (nested m).2, (nested n).1, (nested n).2]
  rcases digit_lt lower with lower | ⟨same, last⟩
  · rcases digit_lt lower with lower | ⟨same, last⟩
    · rcases digit_lt lower with lower | ⟨same, last⟩
      · exact .inl lower
      · exact .inr ⟨same, .inl last⟩
    · exact .inr ⟨by rw [same], .inr ⟨by rw [same], .inl last⟩⟩
  · exact .inr ⟨by rw [same], .inr ⟨by rw [same], .inr ⟨by rw [same], last⟩⟩⟩

theorem utf8EncodeChar_lt {c d : Char} (before : c < d) (rest rest' : List UInt8) :
    String.utf8EncodeChar c ++ rest < String.utf8EncodeChar d ++ rest' := by
  have lower : c.val.toNat < d.val.toNat := before
  have bound : d.val.toNat < 0x110000 := by
    have valid := d.valid
    simp only [UInt32.isValidChar, Nat.isValidChar] at valid
    omega
  have digits := digits_lt lower
  unfold String.utf8EncodeChar
  generalize c.val.toNat = m at lower digits
  generalize d.val.toNat = n at lower bound digits
  -- Marked with their place in the encoding, the digits still fit into a byte.
  have lead : (m / 262144 % 8 + 240) % 256 = m / 262144 + 240 ∧
      (n / 262144 % 8 + 240) % 256 = n / 262144 + 240 := by omega
  have small (k : Nat) : (k % 64 + 128) % 256 = k % 64 + 128 ∧ (k % 32 + 192) % 256 = k % 32 + 192 ∧
      (k % 16 + 224) % 256 = k % 16 + 224 := by omega
  dsimp only
  split_ifs <;> simp only [List.cons_append, List.nil_append, List.cons_lt_cons_iff,
    UInt8.lt_iff_toNat_lt, ← UInt8.toNat_inj, UInt8.toNat_ofNat', Nat.reducePow, small, lead] <;> omega

theorem utf8EncodeChar_ne_nil (c : Char) : String.utf8EncodeChar c ≠ [] := by
  intro nothing
  have size := String.length_utf8EncodeChar c
  rw [nothing] at size
  exact absurd size c.utf8Size_pos.ne

theorem toUTF8_toList (s : String) : s.toUTF8.toList = s.toList.flatMap String.utf8EncodeChar := by
  rw [toList_bytes, String.toUTF8_eq_toByteArray, ← String.utf8Encode_toList, List.utf8Encode,
    List.toList_data_toByteArray]

theorem utf8Encode_lt {cs ds : List Char} (before : cs < ds) :
    cs.flatMap String.utf8EncodeChar < ds.flatMap String.utf8EncodeChar := by
  induction cs generalizing ds with
  | nil =>
      cases ds with
      | nil => exact absurd before (List.lt_irrefl _)
      | cons d ds =>
          rw [List.flatMap_nil, List.flatMap_cons]
          obtain ⟨b, bs, first⟩ := List.exists_cons_of_ne_nil (utf8EncodeChar_ne_nil d)
          rw [first]
          exact List.nil_lt_cons _ _
  | cons c cs ih =>
      cases ds with
      | nil => cases before
      | cons d ds =>
          rw [List.flatMap_cons, List.flatMap_cons]
          rcases List.cons_lt_cons_iff.mp before with first | ⟨rfl, later⟩
          · exact utf8EncodeChar_lt first _ _
          · exact List.append_left_lt (ih later)

/-- Texts and their bytes are in the same order. -/
theorem utf8_lt_iff {s t : String} : s.toUTF8.toList < t.toUTF8.toList ↔ s < t := by
  have encoded {s t : String} (before : s < t) : s.toUTF8.toList < t.toUTF8.toList := by
    rw [toUTF8_toList, toUTF8_toList]
    exact utf8Encode_lt before
  refine ⟨fun before => ?_, encoded⟩
  by_contra not_before
  by_cases after : t < s
  · exact List.lt_asymm before (encoded after)
  · have same : s = t := String.le_antisymm after not_before
    rw [same] at before
    exact List.lt_irrefl _ before

namespace MigrationId

/-- The bytes that an id is stored as. -/
def bytes (id : MigrationId) : List UInt8 :=
  id.text.toUTF8.toList

theorem bytes_lt_iff {a b : MigrationId} : a.bytes < b.bytes ↔ a < b :=
  utf8_lt_iff

theorem bytes_le_iff {a b : MigrationId} : a.bytes ≤ b.bytes ↔ a ≤ b :=
  not_congr utf8_lt_iff

end MigrationId

end SchemaMigration
