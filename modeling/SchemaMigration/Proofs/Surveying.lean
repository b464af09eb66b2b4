import SchemaMigration.Proofs.Chronicle
import SchemaMigration.Proofs.Reading
import SchemaMigration.Proofs.Recency
import SchemaMigration.Proofs.Repetition

/-! # Surveying a table

What an operation knows before it goes on: the migrations of the source, and the records of the table,
which may have to be made first. On a `Workable` table the records come in strictly ascending order of
their ids, so that each migration has at most one, and what is told from the records can be told from the
rows.
-/

namespace SchemaMigration

open World

/-- A request that executes no action. -/
def Request.IsQuiet : Request → Prop
  | .perform .. => False
  | .call _ | .readClock | .note .. => True

namespace World

theorem respond_quiet {r : Request} (quiet : r.IsQuiet) (w : World) :
    ∃ n es, w.LeadsTo n es (respond r w).2 ∧ executionsIn es = [] := by
  cases r with
  | call c => exact ⟨0, _, w.call_leads c, rfl⟩
  | perform => exact quiet.elim
  | readClock => exact ⟨1, [], w.leadsTo_now, rfl⟩
  | note level text => exact ⟨0, _, w.leadsTo_record _, rfl⟩

theorem leadsTo_of_asks {α : Type} {x : Engine α} (asks : Engine.Asks Request.IsQuiet x) (w : World) :
    ∃ n es, w.LeadsTo n es (w.run x).2 ∧ executionsIn es = [] := by
  refine Script.Asks.keeps (I := fun w' : World => ∃ n es, w.LeadsTo n es w' ∧ executionsIn es = [])
    ?_ asks ⟨0, [], .refl w, rfl⟩
  rintro r w' quiet ⟨n, es, leads, none_so_far⟩
  obtain ⟨m, fs, leads', none_here⟩ := respond_quiet quiet w'
  exact ⟨_, _, leads.trans leads', by rw [executionsIn_append, none_so_far, none_here]; rfl⟩

end World

theorem admitsSettling_quiet (t : Tracker) : AdmitsSettling Request.IsQuiet t where
  select _ := trivial
  relationExists := trivial
  note _ _ := trivial
  createSchema _ := trivial
  createTable := trivial
  clock := trivial
  insertCompleted _ _ _ := trivial
  settle _ _ _ := trivial

/-- A tracking table is there or can be made, its rows are records, and no two of them have one id. -/
structure Workable (t : Tracker) (db : Database) : Prop where
  makeable : db.CanMake t.table
  reserved : db.Reserved t.table
  legible : Legible (db.trackingRows t.table)

theorem Database.has_createTable {db : Database} {name : RelationName} (other : TableName)
    (present : db.has name = true) : (db.answer (.createTable other)).2.has name = true := by
  simp only [answer, createTracking]
  split
  · rename_i db' made
    split at made
    · cases made
      exact present
    · split at made
      · cases made
        obtain ⟨relation, found⟩ := Option.isSome_iff_exists.mp present
        rw [has, find?_add, found]
        rfl
      · cases made
  · exact present

theorem Database.CanMake.createTable {db : Database} {name : TableName} (h : db.CanMake name)
    (other : TableName) : (db.answer (.createTable other)).2.CanMake name := by
  refine h.imp (has_createTable other) (Or.imp_right fun placed => ?_)
  simp only [answer, createTracking]
  split
  · rename_i db' made
    split at made
    · cases made
      exact placed
    · split at made
      · cases made
        exact placed
      · cases made
  · exact placed

theorem Database.CanMake.createSchema {db : Database} {name : TableName} (h : db.CanMake name)
    (schema : String) : (db.createSchema schema).CanMake name := by
  refine h.imp (fun present => ?_) (Or.imp_right fun placed => ?_)
  · rwa [has, find?_createSchema]
  · unfold Database.createSchema
    split
    · exact placed
    · simp only [hasSchema, List.contains_eq_mem, List.mem_append, decide_eq_true_eq] at placed ⊢
      exact .inl placed

theorem Workable.respond_idle {t : Tracker} {w : World} (h : Workable t w.database) {r : Request}
    (idle : r.IsIdle) : Workable t (respond r w).2.database := by
  have rows : (respond r w).2.database.trackingRows t.table = w.database.trackingRows t.table :=
    (World.respond_idles idle w).rows
  have parts : (respond r w).2.database.CanMake t.table ∧ (respond r w).2.database.Reserved t.table := by
    cases r with
    | note level text => exact ⟨h.makeable, h.reserved⟩
    | readClock | perform => exact idle.elim
    | call c =>
        change (w.call c).2.database.CanMake t.table ∧ (w.call c).2.database.Reserved t.table
        obtain ⟨e, w', called, same, -⟩ | ⟨w', called, same, -⟩ := w.call_cases c
        · rw [called, same]
          exact ⟨h.makeable, h.reserved⟩
        · rw [called, same]
          cases c with
          | relationExists | select => exact ⟨h.makeable, h.reserved⟩
          | createSchema schema =>
              exact ⟨h.makeable.createSchema schema,
                h.reserved.congr (w.database.find?_createSchema schema t.table.relation)⟩
          | createTable other => exact ⟨h.makeable.createTable other, h.reserved.createTable other⟩
          | dropTable | change | batch => exact idle.elim
  exact ⟨parts.1, parts.2, rows ▸ h.legible⟩

theorem Workable.of_asks {t : Tracker} {w : World} (h : Workable t w.database) {α : Type} {x : Engine α}
    (asks : Engine.Asks Request.IsIdle x) : Workable t (w.run x).2.database :=
  Script.Asks.keeps (I := fun w' : World => Workable t w'.database)
    (fun _ _ idle workable => workable.respond_idle idle) asks h

theorem Workable.of_stores {t : Tracker} {db : Database} {table : TrackingTable}
    (stored : db.Stores t.table table) (legible : Legible table.rows) : Workable t db :=
  ⟨stored.canMake, .inr ⟨table, stored⟩, stored.trackingRows_eq.symm ▸ legible⟩

theorem Tracker.ensure_stores {t : Tracker} {w : World} (makeable : w.database.CanMake t.table)
    (reserved : w.database.Reserved t.table) (calm : w.faults = []) :
    ∃ constrained es w', w.run t.ensure = (.ok (), w') ∧
      w'.database.Stores t.table ⟨constrained, w.database.trackingRows t.table⟩ ∧
      w.LeadsTo 0 es w' ∧ executionsIn es = [] := by
  obtain ⟨es, w', makes, found, leads, quiet⟩ := ensure_makes makeable calm
  rcases reserved with absent | ⟨⟨constrained, rows⟩, stored⟩
  · rw [absent, Option.none_or] at found
    refine ⟨true, es, w', makes, ?_, leads, quiet⟩
    rw [Database.trackingRows, absent]
    exact found
  · rw [show w.database.find? t.table.relation = _ from stored, Option.some_or] at found
    refine ⟨constrained, es, w', makes, ?_, leads, quiet⟩
    rw [stored.trackingRows_eq]
    exact found

theorem Workable.ensure_ends {t : Tracker} {w : World} (h : Workable t w.database)
    (calm : w.faults = []) :
    ∃ table w', w.run t.ensure = (.ok (), w') ∧ w'.database.Stores t.table table ∧
      table.rows = w.database.trackingRows t.table ∧ w'.faults = [] := by
  obtain ⟨constrained, es, w', makes, stored, leads, -⟩ :=
    Tracker.ensure_stores h.makeable h.reserved calm
  exact ⟨⟨constrained, _⟩, w', makes, stored, rfl, leads.faults calm⟩

theorem Database.Reserved.knownIn_eq {t : Tracker} {db : Database} (h : db.Reserved t.table) :
    t.knownIn db =
      ((db.trackingRows t.table).mergeSort TrackingRow.idNotAfter).mapM Tracker.decodeRow := by
  rcases h with absent | ⟨table, stored⟩
  · rw [Tracker.knownIn_absent absent]
    simp only [trackingRows, absent, List.mergeSort_nil]
    rfl
  · rw [Tracker.knownIn_stored stored, stored.trackingRows_eq]

theorem Workable.known {t : Tracker} {db : Database} (h : Workable t db) :
    ∃ records, t.knownIn db = .ok records ∧
      ((db.trackingRows t.table).mergeSort TrackingRow.idNotAfter).mapM Tracker.decodeRow =
        .ok records := by
  obtain ⟨records, decoded⟩ := h.legible.list_ok
  exact ⟨records, h.reserved.knownIn_eq.trans decoded, decoded⟩

theorem find?_key {α κ : Type} [DecidableEq κ] {key : α → κ} {as : List α}
    (distinct : (as.map key).Nodup) {k : κ} {a : α} :
    (as.find? fun b => decide (key b = k)) = some a ↔ a ∈ as ∧ key a = k := by
  constructor
  · intro found
    have same := List.find?_some found
    exact ⟨List.mem_of_find?_eq_some found, of_decide_eq_true same⟩
  · rintro ⟨inside, rfl⟩
    obtain ⟨other, found⟩ : ∃ other, (as.find? fun b => decide (key b = key a)) = some other :=
      Option.isSome_iff_exists.mp (List.find?_isSome.mpr ⟨a, inside, decide_eq_true rfl⟩)
    have same := List.find?_some found
    rw [found, List.inj_on_of_nodup_map distinct (List.mem_of_find?_eq_some found) inside
      (of_decide_eq_true same)]

theorem Legible.find?_iff {rows : List TrackingRow} (h : Legible rows) {id : MigrationId}
    {row : TrackingRow} :
    rows.find? (·.hasId id.text) = some row ↔ row ∈ rows ∧ row.id = some id.text := by
  have asked : (fun row : TrackingRow => row.hasId id.text) =
      fun row => decide (row.id = some id.text) := by
    funext row
    rw [Bool.eq_iff_iff, TrackingRow.hasId_iff, decide_eq_true_iff]
  rw [asked]
  exact find?_key h.unique

def RecordsAscend (records : List MigrationRecord) : Prop :=
  records.Pairwise fun a b => a.id < b.id

theorem Legible.records_ascend {rows : List TrackingRow} {records : List MigrationRecord}
    (legible : Legible rows)
    (decoded : (rows.mergeSort TrackingRow.idNotAfter).mapM Tracker.decodeRow = .ok records) :
    RecordsAscend records := by
  have ids := ids_of_decoded decoded
  have sorted : (rows.mergeSort TrackingRow.idNotAfter).Pairwise (TrackingRow.idNotAfter · ·) :=
    List.pairwise_mergeSort TrackingRow.idNotAfter_trans TrackingRow.idNotAfter_total rows
  have unique : ((rows.mergeSort TrackingRow.idNotAfter).map TrackingRow.id).Nodup :=
    ((List.mergeSort_perm _ _).map _).nodup_iff.mpr legible.unique
  -- Both the order and the distinctness of rows are said of their ids, which the records share.
  have strict : ((rows.mergeSort TrackingRow.idNotAfter).map TrackingRow.id).Pairwise fun x y =>
      ∀ a b : MigrationId, x = some a.text → y = some b.text → a < b := by
    rw [List.pairwise_map]
    refine (sorted.and (List.pairwise_map.mp unique)).imp ?_
    rintro x y ⟨order, different⟩ a b own own'
    rw [own, own'] at different
    simp only [TrackingRow.idNotAfter, own, own', decide_eq_true_eq] at order
    apply String.not_le.mp
    intro not_before
    exact different (congrArg some (String.le_antisymm order not_before))
  rw [ids, List.pairwise_map, List.pairwise_map] at strict
  exact strict.imp fun order => order _ _ rfl rfl

namespace RecordsAscend

variable {records : List MigrationRecord} (h : RecordsAscend records)
include h

theorem distinct : (records.map MigrationRecord.id).Nodup := by
  rw [List.Nodup, List.pairwise_map]
  apply h.imp
  intro a b before same
  rw [same] at before
  exact String.lt_irrefl _ before

theorem recordOf?_eq_some {id : MigrationId} {r : MigrationRecord} :
    recordOf? records id = some r ↔ r ∈ records ∧ r.id = id := by
  have distinct : (records.reverse.map MigrationRecord.id).Nodup := by
    rw [List.map_reverse, List.nodup_reverse]
    exact h.distinct
  rw [recordOf?, find?_key distinct, List.mem_reverse]

theorem recordOf?_own {r : MigrationRecord} (inside : r ∈ records) :
    recordOf? records r.id = some r :=
  h.recordOf?_eq_some.mpr ⟨inside, rfl⟩

theorem stateOf_own {r : MigrationRecord} (inside : r ∈ records) : stateOf records r.id = r.state := by
  rw [stateOf, h.recordOf?_own inside]
  rfl

theorem lastOfEach_eq : lastOfEach records = records := by
  induction records with
  | nil => rfl
  | cons r rest ih =>
      obtain ⟨first, later⟩ := List.pairwise_cons.mp h
      have alone : rest.any (fun other => decide (other.id = r.id)) = false := by
        rw [List.any_eq_false]
        intro other inside same
        have after := first other inside
        rw [of_decide_eq_true same] at after
        exact String.lt_irrefl _ after
      rw [lastOfEach, alone, if_neg Bool.false_ne_true, ih later]

theorem orphans_eq (migrations : List Migration) :
    orphans migrations records = records.filter fun r => !migrations.any (·.id = r.id) := by
  rw [orphans, h.lastOfEach_eq]

theorem mem_dirtyOrphans {migrations : List Migration} {record : MigrationRecord} :
    record ∈ (orphans migrations records).filter (·.state.isDirty) ↔
      record ∈ records ∧ record.id ∉ idsOf migrations ∧ record.state.isDirty = true := by
  rw [h.orphans_eq, List.mem_filter, List.mem_filter, Bool.not_eq_true', List.any_eq_false, idsOf,
    List.mem_map, and_assoc]
  simp only [decide_eq_true_eq, not_exists, not_and]

theorem stateOf_iff {id : MigrationId} {s : MigrationState} (begun : s ≠ .pending) :
    stateOf records id = s ↔ ∃ r ∈ records, r.id = id ∧ r.state = s := by
  unfold stateOf
  constructor
  · intro same
    cases found : recordOf? records id with
    | none =>
        rw [found] at same
        exact (begun same.symm).elim
    | some r =>
        rw [found] at same
        obtain ⟨inside, own⟩ := h.recordOf?_eq_some.mp found
        exact ⟨r, inside, own, same⟩
  · rintro ⟨r, inside, rfl, rfl⟩
    exact h.stateOf_own inside

end RecordsAscend

namespace Runner

/-- The migrations of the source and the records of the table, which is made where it is missing. -/
def survey (r : Runner) : Engine (List Migration × List MigrationRecord) := do
  let migrations ← r.discover
  r.tracker.ensure
  let records ← r.tracker.list
  return (migrations, records)

theorem survey_asks {P : Request → Prop} {r : Runner} (h : AdmitsMaking P r.tracker) :
    Engine.Asks P r.survey :=
  (Engine.asks_ofExcept _).bind fun _ => h.ensure.bind fun _ => (h.records .all).bind fun _ =>
    Engine.asks_pure _

/-- However a survey ends, it leaves a workable table workable and its rows as they were. When it
    succeeds, its records are those of the rows, and the table is there. -/
theorem survey_ends {r : Runner} {w : World} (workable : Workable r.tracker w.database) :
    ∃ result w', w.run r.survey = (result, w') ∧ w.Idles r.tracker.table w' ∧
      Workable r.tracker w'.database ∧
      ∀ migrations records, result = .ok (migrations, records) →
        r.source.list = .ok migrations ∧
        ((w.database.trackingRows r.tracker.table).mergeSort TrackingRow.idNotAfter).mapM
          Tracker.decodeRow = .ok records ∧
        ∃ table, w'.database.Stores r.tracker.table table := by
  have asks := survey_asks (r := r) (admitsMaking_idle r.tracker)
  have idles := World.idles_of_asks r.tracker.table asks w
  have still := workable.of_asks asks
  rcases ends : w.run r.survey with ⟨result, w'⟩
  rw [ends] at idles still
  refine ⟨result, w', rfl, idles, still, ?_⟩
  rintro migrations records rfl
  obtain ⟨ms, w₁, discovers, rest⟩ := World.bind_ok_inv ends
  obtain ⟨-, w₂, -, rest⟩ := World.bind_ok_inv rest
  obtain ⟨rs, w₃, reads, rest⟩ := World.bind_ok_inv rest
  obtain ⟨both, rfl⟩ := Prod.mk.inj rest
  obtain ⟨rfl, rfl⟩ := Prod.mk.inj (Except.ok.inj both)
  obtain ⟨table, stored, decoded⟩ := records_stored reads
  refine ⟨listed_of_discover discovers, ?_, table, stored⟩
  rw [← idles.rows, stored.trackingRows_eq]
  exact decoded

theorem survey_succeeds {r : Runner} {w : World} {migrations : List Migration}
    (workable : Workable r.tracker w.database) (listed : r.source.list = .ok migrations)
    (calm : w.faults = []) :
    ∃ records w', w.run r.survey = (.ok (migrations, records), w') := by
  obtain ⟨records, known, -⟩ := workable.known
  obtain ⟨es, w₁, makes, found, leads, -⟩ := Tracker.ensure_makes workable.makeable calm
  obtain ⟨fs, reads⟩ := Tracker.list_reads (t := r.tracker) (leads.faults calm)
  rw [Tracker.recordsIn_made found, known] at reads
  refine ⟨records, { w₁ with events := fs }, ?_⟩
  unfold survey discover
  rw [listed, World.run_bind_ok (a := migrations) rfl, World.run_bind_ok makes,
    World.run_bind_ok reads, World.run_pure]

end Runner

end SchemaMigration
