import SchemaMigration.Engine.Survey
import SchemaMigration.Proofs.Execution

/-! # The tracking table inside a database

What calls on the database do to the tracking table that it `Stores` under a name, and to nothing else.
Making the table again changes nothing where it exists; a change of rows puts the changed table in its
place. Migrations are free to do anything to the database except to touch this one relation
(`Action.LeavesAlone`).
-/

namespace SchemaMigration

namespace Database

theorem find?_add (db : Database) (name other : RelationName) (relation : Relation) :
    (db.add name relation).find? other =
      (db.find? other).or (if other = name then some relation else none) := by
  simp only [find?, add, List.lookup_append, List.lookup_cons, List.lookup_nil]
  by_cases same : other = name
  · simp [same]
  · simp [same, beq_false_of_ne same]

theorem find?_replace (db : Database) (name other : RelationName) (relation : Relation) :
    (db.replace name relation).find? other =
      if other = name then (db.find? name).map fun _ => relation else db.find? other := by
  simp only [find?, replace]
  induction db.relations with
  | nil => simp
  | cons entry rest ih =>
      obtain ⟨key, value⟩ := entry
      rw [List.map_cons, List.lookup_cons, List.lookup_cons]
      by_cases same : key = name
      · subst same
        by_cases asked : other = key
        · simp [asked]
        · simp only [if_true, List.lookup_cons, beq_false_of_ne asked, ih, asked, if_false]
      · by_cases asked : other = name
        · subst asked
          simp only [same, if_false, List.lookup_cons, beq_false_of_ne (Ne.symm same), ih, if_true]
        · simp only [same, if_false, List.lookup_cons, ih, asked]

theorem find?_drop (db : Database) (name : RelationName) : (db.drop name).find? name = none := by
  rw [find?, drop, List.lookup_eq_none_iff]
  intro entry inside
  have other : entry.1 ≠ name := of_decide_eq_true (List.mem_filter.mp inside).2
  exact bne_iff_ne.mpr other.symm

theorem find?_drop_of_ne (db : Database) {name other : RelationName} (different : other ≠ name) :
    (db.drop name).find? other = db.find? other := by
  simp only [find?, drop]
  induction db.relations with
  | nil => rfl
  | cons entry rest ih =>
      obtain ⟨key, value⟩ := entry
      by_cases same : key = name
      · subst same
        rw [List.filter_cons_of_neg (by simp), List.lookup_cons, beq_false_of_ne different, ih]
      · rw [List.filter_cons_of_pos (by simp [same]), List.lookup_cons, List.lookup_cons, ih]

theorem drop_absent {db : Database} {name : RelationName} (absent : db.find? name = none) :
    db.drop name = db := by
  have kept : (db.relations.filter fun entry => entry.1 ≠ name) = db.relations := by
    apply List.filter_eq_self.mpr
    intro entry inside
    have other := List.lookup_eq_none_iff.mp absent entry inside
    exact decide_eq_true (Ne.symm (bne_iff_ne.mp other))
  rw [drop, kept]

theorem find?_createSchema (db : Database) (schema : String) (name : RelationName) :
    (db.createSchema schema).find? name = db.find? name := by
  unfold createSchema
  split <;> rfl

def Stores (db : Database) (name : TableName) (table : TrackingTable) : Prop :=
  db.find? name.relation = some (.tracking table)

/-- A database with nothing but a tracking table, under the name that is standard. -/
def holding (table : TrackingTable) : Database :=
  ⟨[mainSchema], [(TableName.standard.relation, .tracking table)]⟩

/-- The rows of the tracking table with a name; none where there is no such table. -/
def trackingRows (db : Database) (name : TableName) : List TrackingRow :=
  match db.find? name.relation with
  | some (.tracking table) => table.rows
  | some (.plain _) | none => []

namespace Stores

variable {db : Database} {name : TableName} {table : TrackingTable}

theorem holding (table : TrackingTable) : (Database.holding table).Stores .standard table :=
  List.lookup_cons_self

theorem unique (h : db.Stores name table) {other : TrackingTable} (h' : db.Stores name other) :
    table = other :=
  Relation.tracking.inj (Option.some.inj (h.symm.trans h'))

theorem trackingRows_eq (h : db.Stores name table) : db.trackingRows name = table.rows := by
  unfold trackingRows
  rw [h]

theorem select_eq (h : db.Stores name table) (query : Query) :
    db.select name query = .ok (query.run table) := by
  unfold select
  rw [h]

theorem change_eq (h : db.Stores name table) {statement : Change} {changed : TrackingTable}
    {affected : Nat} (applied : statement.apply table = .ok (changed, affected)) :
    db.change name statement =
      (.ok affected, db.replace name.relation (.tracking changed)) := by
  unfold change
  rw [h]
  simp only [applied]

theorem replaced (h : db.Stores name table) (changed : TrackingTable) :
    (db.replace name.relation (.tracking changed)).Stores name changed := by
  unfold Stores at h ⊢
  rw [find?_replace, if_pos rfl, h, Option.map_some]

theorem createTracking_eq (h : db.Stores name table) (fresh : TrackingTable) :
    db.createTracking name.relation fresh = .ok db := by
  unfold Stores at h
  simp only [createTracking, has, h, Option.isSome_some, if_true]

end Stores

theorem trackingRows_congr {db db' : Database} {name : TableName}
    (same : db'.find? name.relation = db.find? name.relation) :
    db'.trackingRows name = db.trackingRows name := by
  unfold trackingRows
  rw [same]

/-- Rows can be read only from a tracking table. -/
theorem stores_of_select {db : Database} {name : TableName} {query : Query}
    {rows : List TrackingRow} (h : db.select name query = .ok rows) :
    ∃ table, db.Stores name table ∧ rows = query.run table := by
  unfold select at h
  split at h
  · rename_i table found
    exact ⟨table, found, (Except.ok.inj h).symm⟩
  · cases h
  · cases h

/-- Rows can be changed only in a tracking table, and a change that is refused changes nothing. -/
theorem change_cases (db : Database) (name : TableName) (statement : Change) :
    (∃ e, db.change name statement = (.error e, db)) ∨
    ∃ table changed affected, db.Stores name table ∧
      statement.apply table = .ok (changed, affected) ∧
      db.change name statement =
        (.ok affected, db.replace name.relation (.tracking changed)) := by
  cases found : db.find? name.relation with
  | none => exact .inl ⟨_, by simp only [change, found]; rfl⟩
  | some relation =>
      cases relation with
      | plain => exact .inl ⟨_, by simp only [change, found]; rfl⟩
      | tracking table =>
          cases applied : statement.apply table with
          | error violation => exact .inl ⟨_, by simp only [change, found, applied]; rfl⟩
          | ok result =>
              obtain ⟨changed, affected⟩ := result
              exact .inr ⟨table, changed, affected, found, applied, Stores.change_eq found applied⟩

theorem trackingRows_createTable (db : Database) (name other : TableName) :
    (db.answer (.createTable other)).2.trackingRows name = db.trackingRows name := by
  simp only [answer, createTracking]
  by_cases present : db.has other.relation = true
  · simp only [present, if_true]
  · by_cases placed : db.hasSchema other.relation.schema = true
    · simp only [present, placed, if_true, Bool.false_eq_true, if_false]
      have absent : db.find? other.relation = none := by
        simpa only [has, Option.not_isSome_iff_eq_none] using present
      simp only [trackingRows, find?_add]
      by_cases same : name.relation = other.relation
      · simp [same, absent, TrackingTable.empty]
      · simp [same]
    · simp only [present, placed, Bool.false_eq_true, if_false]

end Database

namespace TrackingRow

@[simp] theorem hasId_iff {id : String} {row : TrackingRow} :
    row.hasId id = true ↔ row.id = some id := beq_iff_eq

@[simp] theorem isAt_iff {id status : String} {row : TrackingRow} :
    row.isAt id status = true ↔ row.id = some id ∧ row.status = some status := by
  simp only [isAt, Bool.and_eq_true, beq_iff_eq]

end TrackingRow

section
variable {table : TrackingTable} {id : String}

theorem TrackingTable.insert_absent (absent : table.rows.find? (·.hasId id) = none)
    (status : String) (start : Timestamp) (finish : Option Timestamp) (checksum reason : Option String) :
    table.insert ⟨some id, some status, some start, finish, checksum, reason⟩ =
      .ok { table with rows := table.rows ++
        [⟨some id, some status, some start, finish, checksum, reason⟩] } := by
  have free : table.rows.any (·.hasId id) = false :=
    List.any_eq_false.mpr (List.find?_eq_none.mp absent)
  have kept : table.violation? ⟨some id, some status, some start, finish, checksum, reason⟩ =
      none := by
    simp only [violation?, free, Option.isNone_some, Bool.false_eq_true, if_false, ite_self]
  simp only [insert, kept]

theorem Change.insertStarted_absent (absent : table.rows.find? (·.hasId id) = none)
    (now : Time.Reading) :
    (Change.insertStarted id now).apply table =
      .ok ({ table with rows := table.rows ++
        [⟨some id, some inProgressStatus, some (.ofReading now), none, none, none⟩] }, 1) := by
  simp only [Change.apply, TrackingTable.insert_absent absent]
  rfl

theorem Change.insertCompleted_absent (absent : table.rows.find? (·.hasId id) = none)
    (now : Time.Reading) (checksum : Option String) :
    (Change.insertCompleted id now checksum).apply table =
      .ok ({ table with rows := table.rows ++ [⟨some id, some completedStatus,
        some (.ofReading now), some (.ofReading now), checksum, none⟩] }, 1) := by
  simp only [Change.apply, TrackingTable.insert_absent absent]
  rfl

end

theorem TrackingTable.update_none {table : TrackingTable} {selected : TrackingRow → Bool}
    (f : TrackingRow → TrackingRow) (h : ∀ r ∈ table.rows, selected r = false) :
    table.update selected f = (table, 0) := by
  have kept : (table.rows.map fun r => if selected r then f r else r) = table.rows :=
    (List.map_congr_left fun r inside => by rw [h r inside]; rfl).trans (List.map_id _)
  have uncounted : table.rows.countP selected = 0 :=
    List.countP_eq_zero.mpr fun r inside => by
      simp only [h r inside, Bool.false_eq_true, not_false_eq_true]
  simp only [update, kept, uncounted]

theorem Change.eq_of_unaffected {table changed : TrackingTable} {statement : Change}
    (applied : statement.apply table = .ok (changed, 0)) : changed = table := by
  have updated (selected : TrackingRow → Bool) (f : TrackingRow → TrackingRow)
      (ends : table.update selected f = (changed, 0)) : changed = table := by
    have uncounted : table.rows.countP selected = 0 := congrArg Prod.snd ends
    have kept := TrackingTable.update_none f fun r inside =>
      Bool.eq_false_iff.mpr (List.countP_eq_zero.mp uncounted r inside)
    exact congrArg Prod.fst (ends.symm.trans kept)
  cases statement with
  | insertStarted | insertCompleted =>
      simp only [Change.apply, bind, Except.bind] at applied
      split at applied <;> cases applied
  | complete | fail | restart | settle => exact updated _ _ (Except.ok.inj applied)
  | delete id =>
      have ends : table.remove (·.hasId id) = (changed, 0) := Except.ok.inj applied
      have uncounted : table.rows.countP (·.hasId id) = 0 := congrArg Prod.snd ends
      have kept : (table.rows.filter fun r => !r.hasId id) = table.rows := by
        apply List.filter_eq_self.mpr
        intro r inside
        rw [Bool.not_eq_true', ← Bool.not_eq_true]
        exact List.countP_eq_zero.mp uncounted r inside
      rw [TrackingTable.remove, kept] at ends
      exact (congrArg Prod.fst ends).symm

theorem TrackingTable.update_only {constrained : Bool} {before after : List TrackingRow}
    {row : TrackingRow} {id status : String} (f : TrackingRow → TrackingRow)
    (others : ∀ r ∈ before ++ after, r.hasId id = false) (selected : row.isAt id status = true) :
    TrackingTable.update ⟨constrained, before ++ row :: after⟩ (·.isAt id status) f =
      (⟨constrained, before ++ f row :: after⟩, 1) := by
  have passed (rows : List TrackingRow) (part : ∀ r ∈ rows, r ∈ before ++ after) :
      TrackingTable.update ⟨constrained, rows⟩ (·.isAt id status) f = (⟨constrained, rows⟩, 0) := by
    apply update_none
    intro r inside
    have other : (r.id == some id) = false := others r (part r inside)
    simp only [TrackingRow.isAt, other, Bool.false_and]
  have front := passed before fun r inside => List.mem_append_left after inside
  have back := passed after fun r inside => List.mem_append_right before inside
  simp only [update, Prod.mk.injEq, TrackingTable.mk.injEq, true_and] at front back
  simp only [update, List.map_append, List.map_cons, front.1, back.1, selected, if_true,
    List.countP_append, List.countP_cons, front.2, back.2]

/-- Wherever an action is executed, it leaves the tracking table with a name alone. -/
def Action.LeavesAlone (a : Action) (name : TableName) : Prop :=
  ∀ (w : World) (id : MigrationId) (d : Direction),
    (w.perform id d a).2.database.find? name.relation = w.database.find? name.relation

def Migration.LeavesAlone (m : Migration) (name : TableName) : Prop :=
  ∀ d a, m.action? d = some a → a.LeavesAlone name

def Source.LeavesAlone (s : Source) (name : TableName) : Prop :=
  ∀ ms, s.list = .ok ms → ∀ m ∈ ms, m.LeavesAlone name

theorem Action.LeavesAlone.performed {a : Action} {name : TableName} (alone : a.LeavesAlone name)
    (w : World) (id : MigrationId) (d : Direction) {α : Type} (f : Except DbError Unit → Engine α) :
    ∃ es w', w.run (Engine.perform id d a >>= f) = w'.run (f (w.perform id d a).1) ∧
      w'.database.find? name.relation = w.database.find? name.relation ∧
      w.LeadsTo 0 (es ++ [.performed id d a (w.perform id d a).1]) w' ∧ ∀ e ∈ es, e.IsBatch := by
  obtain ⟨es, sent, leads⟩ := w.perform_leads id d a
  exact ⟨es, _, World.run_bind_ok rfl f, alone w id d, leads, sent⟩

theorem Action.LeavesAlone.executed {a : Action} {name : TableName} (alone : a.LeavesAlone name)
    (w : World) (id : MigrationId) (d : Direction) {α : Type} (f : Except DbError Unit → Engine α) :
    ∃ outcome es w', w.run (Engine.perform id d a >>= f) = w'.run (f outcome) ∧
      w'.database.find? name.relation = w.database.find? name.relation ∧
      w.LeadsTo 0 (es ++ [.performed id d a outcome]) w' ∧ ∀ e ∈ es, e.IsBatch :=
  ⟨_, alone.performed w id d f⟩

/-- Whether an action sends no statements, whatever it comes to. -/
def Action.isSilent : Action → Bool
  | .sql _ => false
  | .procedure _ outcomes => outcomes.all fun
    | .done | .failed _ => true
    | .statements _ => false

def Migration.isSilent (m : Migration) : Bool :=
  m.up.isSilent && m.down.all Action.isSilent

theorem Action.leavesAlone_silent {a : Action} (silent : a.isSilent = true) (name : TableName) :
    a.LeavesAlone name := by
  cases a with
  | sql text => cases silent
  | procedure fingerprint outcomes =>
      rw [isSilent, List.all_eq_true] at silent
      intro w id d
      have quiet (n : Nat) (sql : String) : outcomeAfter n outcomes ≠ .statements sql := by
        intro same
        unfold outcomeAfter at same
        cases at_n : outcomes[n]? with
        | some o =>
            simp only [at_n, Option.some_or, Option.getD_some] at same
            have known := silent o (List.mem_of_getElem? at_n)
            rw [same] at known
            cases known
        | none =>
            -- After its outcomes, a procedure repeats the last one.
            cases last : outcomes.getLast? with
            | none => simp only [at_n, last, Option.none_or, Option.getD_none, reduceCtorEq] at same
            | some o =>
                simp only [at_n, last, Option.none_or, Option.getD_some] at same
                have known := silent o (List.mem_of_getLast? last)
                rw [same] at known
                cases known
      simp only [World.perform, World.execute]
      split
      · rfl
      · rfl
      · rename_i sql same
        exact (quiet _ sql same).elim

theorem Migration.leavesAlone_silent {m : Migration} (silent : m.isSilent = true)
    (name : TableName) : m.LeavesAlone name := by
  rw [isSilent, Bool.and_eq_true] at silent
  intro d a given
  cases d with
  | up =>
      obtain rfl : m.up = a := Option.some.inj given
      exact Action.leavesAlone_silent silent.1 name
  | down =>
      have down : m.down = some a := given
      rw [down, Option.all_some] at silent
      exact Action.leavesAlone_silent silent.2 name

theorem Source.leavesAlone_silent {s : Source} {migrations : List Migration}
    (listed : s.list = .ok migrations) (silent : ∀ m ∈ migrations, m.isSilent = true)
    (name : TableName) : s.LeavesAlone name := by
  intro ms listed' m inside
  obtain rfl : migrations = ms := Except.ok.inj (listed.symm.trans listed')
  exact Migration.leavesAlone_silent (silent m inside) name

/-- A world whose clock is ahead by one second at each reading. -/
def World.ticking (db : Database) : World :=
  .start db fun n => .ofMicros (1000000 * n)

/-- The migration with an action, again a silent one, that takes it back. -/
def Migration.withDown (m : Migration) (fingerprint : String) : Migration :=
  { m with down := some (.procedure fingerprint []) }

namespace Sample

-- Three silent migrations that succeed, in ascending order.
def first : Migration := ⟨⟨"001", by decide⟩, none, .procedure "a" [], none⟩

def second : Migration := ⟨⟨"002", by decide⟩, none, .procedure "b" [], none⟩

def third : Migration := ⟨⟨"003", by decide⟩, none, .procedure "c" [], none⟩

end Sample

end SchemaMigration
