import SchemaMigration.Proofs.Naming
import SchemaMigration.Proofs.Preparation

/-! # Making the tracking table

The schema that is made before the tracking table is the one that the table goes into, whatever its
name. So with no failing call a table that is missing can be made, unless it goes into the main schema
and there is none, and one that exists stays as it is.
-/

namespace SchemaMigration

namespace Database

variable {db : Database}

theorem hasSchema_createSchema (db : Database) (schema : String) :
    (db.createSchema schema).hasSchema schema = true := by
  unfold createSchema
  split
  · assumption
  · simp [hasSchema]

/-- A relation has the name, or there is a schema to make one in. The schema of a qualified name is
    made on the way; the main schema is not. -/
def CanMake (db : Database) (name : TableName) : Prop :=
  db.has name.relation = true ∨ name.schema?.isSome = true ∨ db.hasSchema mainSchema = true

theorem Stores.canMake {name : TableName} {table : TrackingTable} (h : db.Stores name table) :
    db.CanMake name :=
  .inl (by rw [has, show db.find? name.relation = _ from h]; rfl)

theorem createTable_made {name : TableName}
    (placed : db.has name.relation = true ∨ db.hasSchema name.relation.schema = true) :
    ∃ db', db.answer (.createTable name) = (.ok (), db') ∧
      db'.find? name.relation =
        (db.find? name.relation).or (some (.tracking .empty)) := by
  cases found : db.find? name.relation with
  | some relation =>
      refine ⟨db, ?_, by rw [found, Option.some_or]⟩
      simp only [answer, createTracking, has, found, Option.isSome_some, if_true]
  | none =>
      have schema : db.hasSchema name.relation.schema = true := by
        simpa only [has, found, Option.isSome_none, Bool.false_eq_true, false_or] using placed
      refine ⟨db.add name.relation (.tracking .empty), ?_, ?_⟩
      · simp only [answer, createTracking, has, found, schema, Option.isSome_none,
          Bool.false_eq_true, if_false, if_true]
      · rw [find?_add, found, Option.none_or, if_pos rfl, Option.none_or]

end Database

theorem World.call_answered {w : World} (calm : w.faults = []) (c : Call) :
    ∃ w', w.call c = ((w.database.answer c).1, w') ∧ w'.database = (w.database.answer c).2 ∧
      w.LeadsTo 0 [.called c (w.database.answer c).1] w' := by
  obtain ⟨e, w', -, -, -, armed⟩ | answered := w.call_cases c
  · exact (armed calm).elim
  · exact answered

/-- With no failing call, making the table succeeds. -/
theorem Tracker.ensure_makes {t : Tracker} {w : World} (makeable : w.database.CanMake t.table)
    (calm : w.faults = []) :
    ∃ es w', w.run t.ensure = (.ok (), w') ∧
      w'.database.find? t.table.relation =
        (w.database.find? t.table.relation).or (some (.tracking .empty)) ∧
      w.LeadsTo 0 es w' ∧ executionsIn es = [] := by
  have make (w : World) (calm : w.faults = [])
      (placed : w.database.has t.table.relation = true ∨
        w.database.hasSchema t.table.relation.schema = true) :
      ∃ es w', w.run (Engine.call (.createTable t.table)) = (.ok (), w') ∧
        w'.database.find? t.table.relation =
          (w.database.find? t.table.relation).or (some (.tracking .empty)) ∧
        w.LeadsTo 0 es w' ∧ executionsIn es = [] := by
    obtain ⟨db, made, found⟩ := Database.createTable_made placed
    obtain ⟨w', called, same, leads⟩ := World.call_answered calm (.createTable t.table)
    rw [made] at called same
    exact ⟨_, w', by rw [World.run_call, called]; rfl, same ▸ found, leads, rfl⟩
  have schema := t.table.schema_relation
  unfold Tracker.ensure
  cases given : t.table.schema? with
  | none =>
      rw [given, Option.getD_none] at schema
      have placed := makeable
      rw [Database.CanMake, given, ← schema] at placed
      exact make w calm (placed.imp_right fun placed => placed.resolve_left nofun)
  | some name =>
      rw [given, Option.getD_some] at schema
      obtain ⟨w₁, called, same, leads⟩ := World.call_answered calm (.createSchema name)
      have first : w.run (Engine.call (.createSchema name)) = (.ok (), w₁) := by
        rw [World.run_call, called]
        rfl
      have database : w₁.database = w.database.createSchema name := same
      have placed : w₁.database.hasSchema t.table.relation.schema = true := by
        rw [database, schema]
        exact w.database.hasSchema_createSchema name
      obtain ⟨es, w', made, found, leads', quiet⟩ := make w₁ (leads.faults calm) (.inr placed)
      refine ⟨_, w', (World.run_bind_ok first _).trans made, ?_, leads.trans leads', quiet⟩
      rw [found, database, Database.find?_createSchema]

end SchemaMigration
