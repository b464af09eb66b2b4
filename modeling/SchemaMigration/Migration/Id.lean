import SchemaMigration.Text.Blank

/-! # Migration ids

An id is a non-empty text without blanks at its ends, so that it survives being typed at a prompt.
Ids order by code point, which is also the order of their UTF-8 bytes, and that is the only order
that runs and rollbacks know.
-/

namespace SchemaMigration

/-- The name of a migration. -/
structure MigrationId where
  text : String
  isValid : text ≠ "" ∧ Text.trim text = text
  deriving DecidableEq

namespace MigrationId

/-- The id with the given text, unless the text is empty or has blanks at its ends. -/
def ofText? (text : String) : Option MigrationId :=
  if h : text ≠ "" ∧ Text.trim text = text then some ⟨text, h⟩ else none

/-- What `ofText?` asks of a text, in words. -/
def requirement : String := "MigrationId must be non-empty and trimmed"

instance : ToString MigrationId := ⟨text⟩

instance : Ord MigrationId := ⟨fun a b => compare a.text b.text⟩

instance : LT MigrationId := ⟨fun a b => a.text < b.text⟩

instance : LE MigrationId := ⟨fun a b => a.text ≤ b.text⟩

instance (a b : MigrationId) : Decidable (a < b) :=
  inferInstanceAs (Decidable (a.text < b.text))

instance (a b : MigrationId) : Decidable (a ≤ b) :=
  inferInstanceAs (Decidable (a.text ≤ b.text))

theorem ext_text {a b : MigrationId} (h : a.text = b.text) : a = b := by
  cases a; cases b; cases h; rfl

@[simp] theorem ofText?_text (id : MigrationId) : ofText? id.text = some id := by
  simp [ofText?, id.isValid]

end MigrationId

end SchemaMigration
