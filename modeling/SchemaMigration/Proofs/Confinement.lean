import SchemaMigration.Config.Basic
import SchemaMigration.Proofs.Creation
import SchemaMigration.Proofs.Interpolation

/-! # Keeping to one relation

To make a tracking table, or to drop it and make it again, touches the one relation that the name of the
table stands for, and no schema but the one that the name spells (`Database.DiffersAt`). Afterwards there
is a relation with the name; one that was dropped and made again has no rows.
-/

namespace SchemaMigration

open World

/-- Databases that differ in nothing but the relation that a name stands for, and in the schema that the
    name spells. -/
structure Database.DiffersAt (name : TableName) (db db' : Database) : Prop where
  relations : ∀ other, other ≠ name.relation → db'.find? other = db.find? other
  schemas : ∀ schema, name.schema? ≠ some schema → db'.hasSchema schema = db.hasSchema schema

namespace Database.DiffersAt

variable {name : TableName} {db db' db'' : Database}

theorem refl (name : TableName) (db : Database) : db.DiffersAt name db :=
  ⟨fun _ _ => rfl, fun _ _ => rfl⟩

theorem trans (first : db.DiffersAt name db') (second : db'.DiffersAt name db'') :
    db.DiffersAt name db'' where
  relations other different := (second.relations other different).trans (first.relations other different)
  schemas schema foreign := (second.schemas schema foreign).trans (first.schemas schema foreign)

theorem createSchema {schema : String} (own : name.schema? = some schema) :
    db.DiffersAt name (db.createSchema schema) where
  relations other _ := db.find?_createSchema schema other
  schemas other foreign := by
    have different : other ≠ schema := fun same => foreign (same ▸ own)
    unfold Database.createSchema
    split
    · rfl
    · simp [hasSchema, different]

theorem createTable : db.DiffersAt name (db.answer (.createTable name)).2 := by
  simp only [answer, createTracking]
  by_cases present : db.has name.relation = true
  · rw [if_pos present]
    exact refl name db
  by_cases placed : db.hasSchema name.relation.schema = true
  · rw [if_neg present, if_pos placed]
    refine ⟨fun other different => ?_, fun _ _ => rfl⟩
    rw [find?_add, if_neg different, Option.or_none]
  · rw [if_neg present, if_neg placed]
    exact refl name db

theorem drop : db.DiffersAt name (db.drop name.relation) where
  relations _ different := db.find?_drop_of_ne different
  schemas _ _ := rfl

end Database.DiffersAt

/-- The requests by which a tracking table is dropped and made. -/
inductive Request.Makes (name : TableName) : Request → Prop
  | createSchema (schema : String) (own : name.schema? = some schema) :
      Makes name (.call (.createSchema schema))
  | createTable : Makes name (.call (.createTable name))
  | dropTable : Makes name (.call (.dropTable name))
  | note (level : Level) (text : String) : Makes name (.note level text)

theorem World.respond_differs {name : TableName} {r : Request} (makes : r.Makes name) (w : World) :
    w.database.DiffersAt name (respond r w).2.database := by
  have called {c : Call} (answers : w.database.DiffersAt name (w.database.answer c).2) :
      w.database.DiffersAt name (w.call c).2.database := by
    obtain ⟨e, w', ends, same, -⟩ | ⟨w', ends, same, -⟩ := w.call_cases c
    · rw [ends, same]
      exact .refl name w.database
    · rwa [ends, same]
  cases makes with
  | createSchema schema own => exact called (.createSchema own)
  | createTable => exact called .createTable
  | dropTable => exact called .drop
  | note => exact .refl name w.database

theorem World.differs_of_asks {name : TableName} {x : Engine Unit} {w : World}
    (asks : Engine.Asks (Request.Makes name) x) : w.database.DiffersAt name (w.run x).2.database :=
  Script.Asks.keeps (I := fun w' : World => w.database.DiffersAt name w'.database)
    (fun _ _ makes before => before.trans (respond_differs makes _)) asks (.refl name w.database)

namespace Tracker

variable {t : Tracker} {w w' : World}

theorem ensure_asks (t : Tracker) : Engine.Asks (Request.Makes t.table) t.ensure := by
  unfold Tracker.ensure
  have make : Engine.Asks (Request.Makes t.table) (Engine.call (.createTable t.table)) :=
    Engine.asks_call .createTable
  cases own : t.table.schema? with
  | none => exact make
  | some schema => exact (Engine.asks_call (.createSchema schema own)).bind fun _ => make

theorem reset_asks (t : Tracker) : Engine.Asks (Request.Makes t.table) t.reset :=
  (Engine.asks_call .dropTable).bind fun _ => t.ensure_asks.bind fun _ =>
    Engine.asks_note (.note _ _)

/-- Once making the table has succeeded, the relation that had the name still has it, or an empty table
    does. -/
theorem ensure_found (ends : w.run t.ensure = (.ok (), w')) :
    w'.database.find? t.table.relation =
      (w.database.find? t.table.relation).or (some (.tracking .empty)) := by
  have made {w w' : World} (ends : w.run (Engine.call (.createTable t.table)) = (.ok (), w')) :
      w'.database.find? t.table.relation =
        (w.database.find? t.table.relation).or (some (.tracking .empty)) := by
    have answered := answer_of_call (c := .createTable t.table) ends
    by_cases placed : w.database.has t.table.relation = true ∨
        w.database.hasSchema t.table.relation.schema = true
    · obtain ⟨db, answered', found⟩ := Database.createTable_made placed
      rw [answered] at answered'
      rw [(Prod.mk.inj answered').2, found]
    · obtain ⟨absent, homeless⟩ := not_or.mp placed
      simp only [Database.answer, Database.createTracking, absent, homeless] at answered
      cases answered
  unfold Tracker.ensure at ends
  cases own : t.table.schema? with
  | none =>
      rw [own] at ends
      exact made ends
  | some schema =>
      rw [own] at ends
      obtain ⟨u, w₁, first, rest⟩ := bind_ok_inv ends
      have created : w.database.createSchema schema = w₁.database :=
        congrArg Prod.snd (answer_of_call (c := .createSchema schema) first)
      rw [made rest, ← created, Database.find?_createSchema]

theorem reset_found (ends : w.run t.reset = (.ok (), w')) :
    w'.database.Stores t.table .empty := by
  obtain ⟨u, w₁, drops, rest⟩ := bind_ok_inv (f := fun _ => t.ensure >>= fun _ =>
    Engine.note .warn ("Dropped and recreated tracking table " ++ t.table.text)) ends
  obtain ⟨u, w₂, makes, notes⟩ := bind_ok_inv rest
  have dropped : w.database.drop t.table.relation = w₁.database :=
    congrArg Prod.snd (answer_of_call (c := .dropTable t.table) drops)
  have found := ensure_found makes
  rw [← dropped, Database.find?_drop, Option.none_or] at found
  rw [run_note] at notes
  obtain ⟨-, rfl⟩ := Prod.mk.inj notes
  exact found

end Tracker

theorem World.call_comesTo {w : World} {c : Call} {a : c.Result}
    (answers : (w.database.answer c).1 = .ok a) : w.ComesTo (Engine.call c) a := by
  unfold ComesTo
  rw [run_call]
  obtain ⟨e, w', called, -, -, armed⟩ | ⟨w', called, -⟩ := w.call_cases c
  · exact .inr ⟨armed, e, by rw [called]; rfl⟩
  · exact .inl (by rw [called, answers]; rfl)

theorem Tracker.isCreated_comesTo (t : Tracker) (w : World) :
    w.ComesTo t.isCreated (w.database.has t.table.relation) :=
  World.call_comesTo (c := .relationExists t.table) rfl

theorem Tracker.isCreated_of_found {t : Tracker} {w : World} {relation : Relation}
    (found : w.database.find? t.table.relation = some relation) : w.ComesTo t.isCreated true := by
  have comes := t.isCreated_comesTo w
  rwa [Database.has, found] at comes

theorem Tracker.list_of_empty {t : Tracker} {w : World} (stores : w.database.Stores t.table .empty) :
    w.ComesTo t.list [] := by
  have nothing : (Query.all.run .empty).mapM Tracker.decodeRow = .ok [] := by
    rw [Query.run, TrackingTable.empty, List.mergeSort_nil, List.mapM_nil]
    rfl
  have listed := Tracker.list_attempts stores
  rw [nothing] at listed
  exact listed.comesTo

theorem Tracker.makes_calm (t : Tracker) {w : World} (calm : w.faults = [])
    (main : w.database.hasSchema mainSchema = true) :
    (w.run t.ensure).1 = .ok () ∧ (w.run t.reset).1 = .ok () := by
  constructor
  · obtain ⟨es, w', makes, -⟩ := ensure_makes (t := t) (.inr (.inr main)) calm
    rw [makes]
  · obtain ⟨w₁, called, same, leads⟩ := World.call_answered calm (.dropTable t.table)
    have drops : w.run (Engine.call (.dropTable t.table)) = (.ok (), w₁) := by
      rw [run_call, called]
      rfl
    have kept : w₁.database.hasSchema mainSchema = true := by
      rw [same]
      exact main
    obtain ⟨es, w₂, makes, -⟩ := ensure_makes (t := t) (.inr (.inr kept)) (leads.faults calm)
    have resets : w.run t.reset = w₂.run
        (Engine.note .warn ("Dropped and recreated tracking table " ++ t.table.text)) :=
      (run_bind_ok drops _).trans (run_bind_ok makes _)
    rw [resets, run_note]

/-- Names of tracking tables are safe, and stand for one relation everywhere. A text is taken for a name
    exactly if it is an identifier or two with a dot between. The schema that is made for a name and the
    relation that is looked up are what the name spells, and neither is empty. Statements that the name
    is put into make and drop just that. So whatever fails, making the table, or dropping it and making
    it again, touches no other relation; once it has succeeded, the table exists, and the one that was
    dropped is empty. -/
theorem table_names_resolve :
    (∀ text,
      (isTableName text = true ↔ ∃ schema name, TableName.Spells text schema name) ∧
      ((∃ name, TableName.ofText text = .ok name) ↔ isTableName text = true) ∧
      ∀ name, TableName.ofText text = .ok name → name.text = text) ∧
    ∀ (t : Tracker) (schema : Option String) (name : String),
      TableName.Spells t.table.text schema name →
      t.table.StandsFor schema name ∧
      (∀ db, Sql.Carried t.table db) ∧
      ∀ w : World,
        (∀ x ∈ [t.ensure, t.reset],
          w.database.DiffersAt t.table (w.run x).2.database ∧
          (∀ w', w.run x = (.ok (), w') → w'.ComesTo t.isCreated true) ∧
          (w.faults = [] → w.database.hasSchema mainSchema = true → (w.run x).1 = .ok ())) ∧
        ∀ w', w.run t.reset = (.ok (), w') → w'.ComesTo t.list [] := by
  refine ⟨fun text => ⟨isTableName_iff, ⟨?_, ?_⟩, fun name taken => TableName.ofText_eq_ok.mp taken⟩,
    fun t schema name spells => ⟨spells.standsFor, fun db => Sql.carried t.table db, fun w => ⟨?_, ?_⟩⟩⟩
  · rintro ⟨name, taken⟩
    rw [← TableName.ofText_eq_ok.mp taken]
    exact name.isValid
  · intro valid
    exact ⟨⟨text, valid⟩, TableName.ofText_eq_ok.mpr rfl⟩
  · intro x among
    rcases List.mem_pair.mp among with rfl | rfl
    · refine ⟨World.differs_of_asks t.ensure_asks, fun w' ends => ?_,
        fun calm main => (t.makes_calm calm main).1⟩
      have found := Tracker.ensure_found ends
      cases before : w.database.find? t.table.relation with
      | none => exact Tracker.isCreated_of_found (found.trans (by rw [before, Option.none_or]))
      | some relation => exact Tracker.isCreated_of_found (found.trans (by rw [before, Option.some_or]))
    · exact ⟨World.differs_of_asks t.reset_asks,
        fun w' ends => Tracker.isCreated_of_found (Tracker.reset_found ends),
        fun calm main => (t.makes_calm calm main).2⟩
  · exact fun w' ends => Tracker.list_of_empty (Tracker.reset_found ends)

/-- A table in a schema that is missing, beside one of the same name in the main schema: the schema is
    made, and the other table stays as it is. -/
theorem table_names_resolve_qualified :
    ∃ (t : Tracker) (w w' : World),
      t.table.text = "ops.runs" ∧ w.faults = [] ∧ w.database.hasSchema mainSchema = true ∧
      w.database.find? ⟨mainSchema, "runs"⟩ = some (.plain ⟨[], []⟩) ∧
      w.run t.reset = (.ok (), w') ∧
      t.table.StandsFor (some "ops") "runs" ∧
      w'.database.find? ⟨mainSchema, "runs"⟩ = some (.plain ⟨[], []⟩) ∧
      w'.ComesTo t.isCreated true ∧ w'.ComesTo t.list [] := by
  have outer : Identifier "ops" := isIdentifier_iff.mp (by decide)
  have inner : Identifier "runs" := isIdentifier_iff.mp (by decide)
  let t : Tracker := ⟨⟨"ops.runs", isTableName_of_spells (.qualified outer inner)⟩⟩
  let w : World := .start ⟨[mainSchema], [(⟨mainSchema, "runs"⟩, .plain ⟨[], []⟩)]⟩
    fun _ => .ofMicros 0
  obtain ⟨stands, -, runs⟩ := table_names_resolve.2 t (some "ops") "runs" (.qualified outer inner)
  obtain ⟨differs, created, succeeds⟩ := (runs w).1 t.reset (by simp)
  have ends : w.run t.reset = (.ok (), (w.run t.reset).2) := Prod.ext (succeeds rfl rfl) rfl
  have other : (⟨mainSchema, "runs"⟩ : RelationName) ≠ t.table.relation := by
    rw [stands.relation_eq]
    decide
  exact ⟨t, w, _, rfl, rfl, rfl, rfl, ends, stands, differs.relations _ other, created _ ends,
    (runs w).2 _ ends⟩

end SchemaMigration
