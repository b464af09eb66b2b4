import SchemaMigration.Engine.Rollback
import SchemaMigration.Proofs.Blanks
import SchemaMigration.Proofs.Legibility

/-! # Written strategies

What a rollback takes back is written as a word, or as a word with an id or a count after it. Every
strategy but the one that takes back nothing is written in a form that is read as that strategy
(`Spells`). Besides such forms, only counts with a plus sign or with zeros in front are read. What
follows the first word is taken as it is, so that an id may itself look like a strategy.
-/

namespace SchemaMigration

theorem MigrationId.exists_text_iff {text : String} :
    (∃ id : MigrationId, id.text = text) ↔ text ≠ "" ∧ Text.Trimmed text := by
  rw [← Text.trim_eq_self_iff]
  constructor
  · rintro ⟨id, rfl⟩
    exact id.isValid
  · exact fun valid => ⟨⟨text, valid⟩, rfl⟩

namespace RollbackStrategy

/-- A text is a count: decimal digits, with a plus sign before them or not, whose value a machine word
    can hold. -/
inductive SpellsCount : (text : String) → (n : Nat) → Prop
  | mk {sign : String} {digits : List Char} (optional : sign = "" ∨ sign = "+") (any : digits ≠ [])
      (decimal : ∀ c ∈ digits, c.isDigit = true) (fits : Nat.ofDigitChars 10 digits 0 < Number.pow2 64) :
      SpellsCount (sign ++ String.ofList digits) (Nat.ofDigitChars 10 digits 0)

/-- What is left of a count without its sign. -/
def unsigned : List Char → List Char
  | '+' :: rest => rest
  | cs => cs

theorem unsigned_of_digits {digits : List Char} (decimal : ∀ c ∈ digits, c.isDigit = true) :
    unsigned digits = digits := by
  unfold unsigned
  split
  · exact absurd (decimal '+' List.mem_cons_self) (by decide)
  · rfl

theorem exists_sign (text : String) :
    ∃ sign, (sign = "" ∨ sign = "+") ∧ text = sign ++ String.ofList (unsigned text.toList) := by
  unfold unsigned
  split
  · rename_i rest written
    refine ⟨"+", .inr rfl, ?_⟩
    rw [← String.toList_inj, written]
    simp
  · exact ⟨"", .inl rfl, by simp⟩

theorem count?_eq_some_iff {text : String} {n : Nat} : count? text = some n ↔ SpellsCount text n := by
  have computed : count? text = some n ↔ unsigned text.toList ≠ [] ∧
      (∀ c ∈ unsigned text.toList, c.isDigit = true) ∧
      Nat.ofDigitChars 10 (unsigned text.toList) 0 < Number.pow2 64 ∧
      Nat.ofDigitChars 10 (unsigned text.toList) 0 = n := by
    change (if !(unsigned text.toList).isEmpty && (unsigned text.toList).all Char.isDigit &&
      decide (Nat.ofDigitChars 10 (unsigned text.toList) 0 < Number.pow2 64) then
      some (Nat.ofDigitChars 10 (unsigned text.toList) 0) else none) = some n ↔ _
    simp [and_assoc]
  rw [computed]
  constructor
  · rintro ⟨any, decimal, fits, rfl⟩
    obtain ⟨sign, optional, written⟩ := exists_sign text
    have spelled := SpellsCount.mk optional any decimal fits
    rwa [← written] at spelled
  · rintro ⟨optional, any, decimal, fits⟩
    rename_i sign digits
    have rest : unsigned (sign ++ String.ofList digits).toList = digits := by
      rcases optional with rfl | rfl
      · simpa using unsigned_of_digits decimal
      · simp [unsigned]
    rw [rest]
    exact ⟨any, decimal, fits, rfl⟩

theorem spellsCount_repr {n : Nat} (fits : n < Number.pow2 64) : SpellsCount (Nat.repr n) n := by
  have value : Nat.ofDigitChars 10 (Nat.toDigits 10 n) 0 = n :=
    Nat.ofDigitChars_toDigits (by decide) (by decide)
  have spelled := SpellsCount.mk (.inl rfl) Nat.toDigits_ne_nil
    (fun c inside => Nat.isDigit_of_mem_toDigits (b := 10) (n := n) (by decide) (by decide) inside)
    (value.symm ▸ fits)
  rwa [value, String.empty_append] at spelled

/-- The texts that a strategy is read from. -/
inductive Spells : (text : String) → (s : RollbackStrategy) → Prop
  | last : Spells "last" .last
  | all : Spells "all" .all
  | downTo (id : MigrationId) : Spells ("down-to:" ++ id.text) (.downTo id)
  | steps {count : String} {n : Nat} (spells : SpellsCount count n) (positive : 1 ≤ n) :
      Spells ("steps:" ++ count) (.steps n)

theorem afterStart?_eq_some_iff {start text rest : String} :
    afterStart? start text = some rest ↔ text = start ++ rest := by
  unfold afterStart?
  rw [← String.toList_inj, String.toList_append]
  constructor
  · intro found
    split at found
    · rename_i begins
      rw [← Option.some.inj found, String.toList_ofList]
      obtain ⟨rest, written⟩ := List.isPrefixOf_iff_prefix.mp begins
      rw [← written, List.drop_left]
    · cases found
  · intro written
    rw [written]
    simp

theorem append_ne_of_head {start other : String} (rest : String) {c : Char}
    (begins : start.toList.head? = some c) (foreign : other.toList.head? ≠ some c) :
    start ++ rest ≠ other := by
  rintro rfl
  apply foreign
  rw [String.toList_append, List.head?_append, begins, Option.some_or]

theorem parse_downTo (id : MigrationId) : parse ("down-to:" ++ id.text) = .ok (.downTo id) := by
  have after : afterStart? "down-to:" ("down-to:" ++ id.text) = some id.text :=
    afterStart?_eq_some_iff.mpr rfl
  have noLast : "down-to:" ++ id.text ≠ "last" := append_ne_of_head id.text (c := 'd') rfl (by decide)
  have noAll : "down-to:" ++ id.text ≠ "all" := append_ne_of_head id.text (c := 'd') rfl (by decide)
  simp only [parse, noLast, noAll, after, if_false, MigrationId.ofText?_text]

theorem parse_steps {count : String} {n : Nat} (spells : SpellsCount count n) (positive : 1 ≤ n) :
    parse ("steps:" ++ count) = .ok (.steps n) := by
  have noId : afterStart? "down-to:" ("steps:" ++ count) = none := by
    rw [Option.eq_none_iff_forall_ne_some]
    intro rest found
    have same := afterStart?_eq_some_iff.mp found
    exact append_ne_of_head count (c := 's') rfl (by simp) same
  have after : afterStart? "steps:" ("steps:" ++ count) = some count :=
    afterStart?_eq_some_iff.mpr rfl
  have noLast : "steps:" ++ count ≠ "last" := append_ne_of_head count (c := 's') rfl (by decide)
  have noAll : "steps:" ++ count ≠ "all" := append_ne_of_head count (c := 's') rfl (by decide)
  obtain ⟨m, rfl⟩ := Nat.exists_eq_add_of_le' positive
  simp only [parse, noLast, noAll, noId, after, count?_eq_some_iff.mpr spells, if_false]

/-- A strategy is read from the texts that spell it, and from no others. -/
theorem parse_eq_ok_iff {text : String} {s : RollbackStrategy} :
    parse text = .ok s ↔ Spells text s := by
  constructor
  · intro read
    unfold parse at read
    split_ifs at read with last all
    · obtain rfl := Except.ok.inj read
      exact last ▸ .last
    · obtain rfl := Except.ok.inj read
      exact all ▸ .all
    split at read
    · rename_i id after
      rw [afterStart?_eq_some_iff.mp after]
      cases valid : MigrationId.ofText? id with
      | none =>
          rw [valid] at read
          cases read
      | some id' =>
          rw [valid] at read
          obtain rfl := Except.ok.inj read
          rw [← MigrationId.ofText?_eq_some valid]
          exact .downTo id'
    split at read
    · rename_i count after
      rw [afterStart?_eq_some_iff.mp after]
      cases counted : count? count with
      | none =>
          rw [counted] at read
          cases read
      | some n =>
          rw [counted] at read
          cases n with
          | zero => cases read
          | succ n =>
              obtain rfl := Except.ok.inj read
              exact .steps (count?_eq_some_iff.mp counted) (Nat.succ_pos n)
    · cases read
  · intro spells
    cases spells with
    | last => rfl
    | all => rfl
    | downTo id => exact parse_downTo id
    | steps spells positive => exact parse_steps spells positive

theorem spells_text {s : RollbackStrategy} (some : s ≠ .steps 0)
    (fits : ∀ n, s = .steps n → n < Number.pow2 64) : Spells s.text s := by
  cases s with
  | last => exact .last
  | all => exact .all
  | downTo id => exact .downTo id
  | steps n =>
      have positive : n ≠ 0 := fun zero => some (congrArg steps zero)
      exact .steps (spellsCount_repr (fits n rfl)) (Nat.pos_of_ne_zero positive)

theorem Spells.writable {text : String} {s : RollbackStrategy} (h : Spells text s) :
    s ≠ .steps 0 ∧ ∀ n, s = .steps n → n < Number.pow2 64 := by
  cases h with
  | last => exact ⟨nofun, nofun⟩
  | all => exact ⟨nofun, nofun⟩
  | downTo id => exact ⟨nofun, nofun⟩
  | steps spells positive =>
      refine ⟨fun zero => Nat.ne_of_gt positive (steps.inj zero), fun m same => ?_⟩
      obtain ⟨-, -, -, fits⟩ := spells
      rwa [← steps.inj same]

/-- Strategies are read from the texts that spell them and from no others: from the two words, from a
    valid id and from a positive count of a machine word after theirs. What a strategy is written as is
    read as that strategy, and this form is canonical. -/
theorem strategies_round_trip :
    (∀ text s, parse text = .ok s ↔ Spells text s) ∧
    (∀ text, (∃ id : MigrationId, id.text = text) ↔ text ≠ "" ∧ Text.Trimmed text) ∧
    (∀ s : RollbackStrategy, s ≠ .steps 0 → (∀ n, s = .steps n → n < Number.pow2 64) →
      parse s.text = .ok s) ∧
    ∀ text s, parse text = .ok s → parse s.text = .ok s := by
  refine ⟨fun _ _ => parse_eq_ok_iff, fun _ => MigrationId.exists_text_iff, ?_, ?_⟩
  · exact fun s some fits => parse_eq_ok_iff.mpr (spells_text some fits)
  · intro text s read
    obtain ⟨some, fits⟩ := (parse_eq_ok_iff.mp read).writable
    exact parse_eq_ok_iff.mpr (spells_text some fits)

/-- An id that looks like a strategy itself, and a count with a sign and zeros in front. -/
theorem strategies_round_trip_nested :
    ∃ id : MigrationId, id.text = "steps:3" ∧ (downTo id).text = "down-to:steps:3" ∧
      parse "down-to:steps:3" = .ok (.downTo id) ∧
      parse "steps:+007" = .ok (.steps 7) ∧ (steps 7).text = "steps:7" ∧
      parse "steps:7" = .ok (.steps 7) := by
  obtain ⟨reads, ids, back, canonical⟩ := strategies_round_trip
  obtain ⟨id, named⟩ := (ids "steps:3").mpr ⟨by decide, Text.trim_eq_self_iff.mp (by decide)⟩
  have written : (downTo id).text = "down-to:steps:3" := by rw [text, named]; rfl
  have long : parse "steps:+007" = .ok (.steps 7) :=
    (reads _ _).mpr (.steps (@SpellsCount.mk "+" ['0', '0', '7'] (.inr rfl) (by decide)
      (List.all_eq_true.mp (by decide)) (by decide)) (by decide))
  exact ⟨id, named, written, written ▸ back (downTo id) nofun nofun, long, rfl, canonical _ _ long⟩

end RollbackStrategy

end SchemaMigration
