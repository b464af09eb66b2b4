import Mathlib.Data.List.TakeWhile
import Mathlib.Tactic.Tauto
import SchemaMigration.Config.Basic

/-! # Names of tracking tables

A tracking table is named by an identifier, or by two with a dot between, in letters of ASCII
(`TableName.Spells`). So there is one dot at most, and it makes no difference whether a name is split at
the first dot, as for the schema that is made, or at the last one, as for the relation that is looked up.
What is made under a name is therefore found under it, and no other relation is touched.
-/

namespace SchemaMigration

def BeginsIdentifier (c : Char) : Prop :=
  ('A' ≤ c ∧ c ≤ 'Z') ∨ ('a' ≤ c ∧ c ≤ 'z') ∨ c = '_'

def ContinuesIdentifier (c : Char) : Prop :=
  BeginsIdentifier c ∨ ('0' ≤ c ∧ c ≤ '9')

def Identifier (text : String) : Prop :=
  ∃ c rest, text.toList = c :: rest ∧ BeginsIdentifier c ∧ ∀ d ∈ rest, ContinuesIdentifier d

/-- A text names a table by an `Identifier`, or by one for a schema and one for a relation in there. -/
inductive TableName.Spells : (text : String) → (schema : Option String) → (name : String) → Prop
  | plain {name : String} (identifier : Identifier name) : Spells name none name
  | qualified {schema name : String} (outer : Identifier schema) (inner : Identifier name) :
      Spells (schema ++ "." ++ name) (some schema) name

theorem isIdentifierStart_iff {c : Char} : isIdentifierStart c = true ↔ BeginsIdentifier c := by
  unfold isIdentifierStart BeginsIdentifier
  delta Char.isAlpha Char.isUpper Char.isLower
  simp only [Bool.or_eq_true, Bool.and_eq_true, decide_eq_true_eq, beq_iff_eq, or_assoc, ge_iff_le]
  rfl

theorem isIdentifierPart_iff {c : Char} : isIdentifierPart c = true ↔ ContinuesIdentifier c := by
  have digit : c.isDigit = true ↔ '0' ≤ c ∧ c ≤ '9' := by
    simp only [Char.isDigit, Bool.and_eq_true, decide_eq_true_eq, ge_iff_le]
    rfl
  have start := isIdentifierStart_iff (c := c)
  simp only [isIdentifierStart, Bool.or_eq_true] at start
  simp only [isIdentifierPart, ContinuesIdentifier, Char.isAlphanum, Bool.or_eq_true, ← start, ← digit]
  tauto

theorem isIdentifier_iff {text : String} : isIdentifier text.toList = true ↔ Identifier text := by
  unfold Identifier
  cases text.toList with
  | nil => simp [isIdentifier]
  | cons c rest =>
      simp only [isIdentifier, Bool.and_eq_true, List.all_eq_true, isIdentifierStart_iff,
        isIdentifierPart_iff, List.cons.injEq, exists_and_left, exists_eq_left', and_assoc]

theorem Identifier.ne_empty {text : String} (h : Identifier text) : text ≠ "" := by
  rintro rfl
  obtain ⟨c, rest, written, -⟩ := h
  cases written

theorem Identifier.no_dot {text : String} (h : Identifier text) : '.' ∉ text.toList := by
  obtain ⟨c, rest, written, begins, continues⟩ := h
  rw [written, List.mem_cons]
  rintro (rfl | inside)
  · exact absurd (isIdentifierStart_iff.mpr begins) (by decide)
  · exact absurd (isIdentifierPart_iff.mpr (continues _ inside)) (by decide)

theorem splitAtDots_of_not_mem {cs : List Char} (free : '.' ∉ cs) : splitAtDots cs = [cs] := by
  induction cs with
  | nil => rfl
  | cons c rest ih =>
      rw [List.mem_cons, not_or] at free
      rw [splitAtDots, if_neg (Ne.symm free.1), ih free.2]

theorem splitAtDots_append {front back : List Char} (free : '.' ∉ front) :
    splitAtDots (front ++ '.' :: back) = front :: splitAtDots back := by
  induction front with
  | nil => rfl
  | cons c rest ih =>
      rw [List.mem_cons, not_or] at free
      rw [List.cons_append, splitAtDots, if_neg (Ne.symm free.1), ih free.2]

theorem length_splitAtDots (cs : List Char) : (splitAtDots cs).length = cs.count '.' + 1 := by
  induction cs with
  | nil => rfl
  | cons c rest ih =>
      unfold splitAtDots
      by_cases dot : c = '.'
      · simp [dot, ih]
      · cases parts : splitAtDots rest with
        | nil => simp [parts] at ih
        | cons part others => simpa [dot, parts] using ih

theorem isTableName_of_spells {text name : String} {schema : Option String}
    (h : TableName.Spells text schema name) : isTableName text = true := by
  cases h with
  | plain identifier =>
      simp [isTableName, splitAtDots_of_not_mem identifier.no_dot, isIdentifier_iff, identifier]
  | qualified outer inner =>
      simp [isTableName, String.toList_append, splitAtDots_append outer.no_dot,
        splitAtDots_of_not_mem inner.no_dot, isIdentifier_iff, outer, inner]

theorem spells_of_isTableName {text : String} (h : isTableName text = true) :
    ∃ schema name, TableName.Spells text schema name := by
  simp only [isTableName, Bool.and_eq_true, decide_eq_true_eq] at h
  obtain ⟨few, identifiers⟩ := h
  by_cases dotted : '.' ∈ text.toList
  · obtain ⟨front, back, parts, free⟩ := List.eq_append_cons_of_mem dotted
    obtain rfl : text = String.ofList front ++ "." ++ String.ofList back := by
      apply String.toList_injective
      simpa using parts
    rw [parts, splitAtDots_append free] at few identifiers
    rw [List.length_cons, length_splitAtDots] at few
    have last : '.' ∉ back := List.count_eq_zero.mp (by omega)
    rw [splitAtDots_of_not_mem last] at identifiers
    simp only [List.all_cons, List.all_nil, Bool.and_true, Bool.and_eq_true] at identifiers
    refine ⟨some (String.ofList front), String.ofList back, .qualified ?_ ?_⟩
    · rw [← isIdentifier_iff, String.toList_ofList]
      exact identifiers.1
    · rw [← isIdentifier_iff, String.toList_ofList]
      exact identifiers.2
  · rw [splitAtDots_of_not_mem dotted, List.all_cons, List.all_nil, Bool.and_true] at identifiers
    exact ⟨none, text, .plain (isIdentifier_iff.mp identifiers)⟩

theorem isTableName_iff {text : String} :
    isTableName text = true ↔ ∃ schema name, TableName.Spells text schema name :=
  ⟨spells_of_isTableName, fun ⟨_, _, spells⟩ => isTableName_of_spells spells⟩

theorem ofQualified_plain {name : String} (free : '.' ∉ name.toList) :
    RelationName.ofQualified name = ⟨mainSchema, name⟩ := by
  have nothing : name.toList.reverse.dropWhile (· ≠ '.') = [] :=
    List.dropWhile_eq_nil_iff.mpr fun c inside =>
      decide_eq_true fun same => free (same ▸ List.mem_reverse.mp inside)
  simp only [RelationName.ofQualified, nothing]

theorem ofQualified_append (schema : String) {name : String} (free : '.' ∉ name.toList) :
    RelationName.ofQualified (schema ++ "." ++ name) = ⟨schema, name⟩ := by
  have others : ∀ c ∈ name.toList.reverse, decide (c ≠ '.') = true := fun c inside =>
    decide_eq_true fun same => free (same ▸ List.mem_reverse.mp inside)
  have reversed : (schema ++ "." ++ name).toList.reverse =
      name.toList.reverse ++ '.' :: schema.toList.reverse := by
    simp
  have last : (schema ++ "." ++ name).toList.reverse.dropWhile (· ≠ '.') =
      '.' :: schema.toList.reverse := by
    rw [reversed, List.dropWhile_append_of_pos others]
    rfl
  have after : (schema ++ "." ++ name).toList.reverse.takeWhile (· ≠ '.') = name.toList.reverse := by
    rw [reversed, List.takeWhile_append_of_pos others]
    simp
  simp only [RelationName.ofQualified, last, after, List.reverse_reverse, String.ofList_toList]

namespace TableName

variable {t : TableName} {schema : Option String} {name : String}

theorem Spells.schema?_eq (h : Spells t.text schema name) : t.schema? = schema := by
  unfold schema?
  generalize t.text = text at h
  cases h with
  | plain identifier => simp [identifier.no_dot]
  | @qualified schema name outer inner =>
      have first : (schema ++ "." ++ name).toList.takeWhile (· ≠ '.') = schema.toList := by
        have others : ∀ c ∈ schema.toList, decide (c ≠ '.') = true := fun c inside =>
          decide_eq_true fun same => outer.no_dot (same ▸ inside)
        rw [String.toList_append, String.toList_append, List.append_assoc,
          List.takeWhile_append_of_pos others]
        simp
      simp only [first, String.ofList_toList]
      simp

theorem Spells.relation_eq (h : Spells t.text schema name) :
    t.relation = ⟨schema.getD mainSchema, name⟩ := by
  unfold relation
  generalize t.text = text at h
  cases h with
  | plain identifier => exact ofQualified_plain identifier.no_dot
  | qualified outer inner => exact ofQualified_append _ inner.no_dot

/-- What a name stands for, whichever way it is split. -/
structure StandsFor (t : TableName) (schema : Option String) (name : String) : Prop where
  schema_eq : t.schema? = schema
  relation_eq : t.relation = ⟨schema.getD mainSchema, name⟩
  name_ne : name ≠ ""
  schema_ne : t.relation.schema ≠ ""

theorem Spells.parts_ne {text : String} (h : Spells text schema name) :
    name ≠ "" ∧ schema.getD mainSchema ≠ "" := by
  cases h with
  | plain identifier => exact ⟨identifier.ne_empty, by decide⟩
  | qualified outer inner => exact ⟨inner.ne_empty, outer.ne_empty⟩

theorem Spells.standsFor (h : Spells t.text schema name) : t.StandsFor schema name where
  schema_eq := h.schema?_eq
  relation_eq := h.relation_eq
  name_ne := h.parts_ne.1
  schema_ne := by
    rw [h.relation_eq]
    exact h.parts_ne.2

theorem spells (t : TableName) : ∃ schema name, Spells t.text schema name :=
  spells_of_isTableName t.isValid

/-- There is only one dot to split a name at, so that the first one is the last. -/
theorem schema_relation (t : TableName) : t.relation.schema = t.schema?.getD mainSchema := by
  obtain ⟨schema, name, spells⟩ := t.spells
  rw [spells.relation_eq, spells.schema?_eq]

theorem ofText_eq_ok {text : String} : ofText text = .ok t ↔ t.text = text := by
  unfold ofText ofText?
  by_cases valid : isTableName text = true
  · rw [dif_pos valid]
    constructor
    · intro same
      rw [← Except.ok.inj same]
    · rintro rfl
      rfl
  · rw [dif_neg valid]
    constructor
    · nofun
    · rintro rfl
      exact absurd t.isValid valid

end TableName

end SchemaMigration
