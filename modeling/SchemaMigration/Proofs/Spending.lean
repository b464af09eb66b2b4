import SchemaMigration.Proofs.Preparation

/-! # Spent migrations

A migration is `Spent` once its forward action has succeeded, until its row is deleted by a rollback or
with the whole table. What keeps a spent migration from being executed again is its row: there is one,
and it is not failed (`Shielded`). The invariant that says so ties the record of events to the table, and
most requests cannot break it.
-/

namespace SchemaMigration

/-- The row of a migration was deleted: right after its reverse action had succeeded, or with the
    whole table. -/
def Released (t : Tracker) (id : MigrationId) (es : List Event) : Prop :=
  (∃ before a n after, es = before ++ .performed id .down a (.ok ()) ::
    t.carriedOut (.delete id.text) (n + 1) :: after) ∨
  .called (.dropTable t.table) (.ok ()) ∈ es

/-- The forward action of a migration has succeeded, and its row was not deleted since. -/
def Spent (t : Tracker) (id : MigrationId) (es : List Event) : Prop :=
  ∃ before a between, es = before ++ .performed id .up a (.ok ()) :: between ∧
    ¬Released t id between

/-- Between a success of a forward action and the next execution of it, the row was deleted. -/
def AtMostOnce (t : Tracker) (es : List Event) : Prop :=
  ∀ before id a between a' outcome after,
    es = before ++ .performed id .up a (.ok ()) ::
      (between ++ .performed id .up a' outcome :: after) →
    Released t id between

section
variable {t : Tracker} {id : MigrationId} {es fs : List Event}

theorem Released.append (h : Released t id es) (fs : List Event) : Released t id (es ++ fs) := by
  rcases h with ⟨before, a, n, after, rfl⟩ | dropped
  · exact .inl ⟨before, a, n, after ++ fs, by simp only [List.append_assoc, List.cons_append]⟩
  · exact .inr (List.mem_append_left fs dropped)

theorem execution_of_performed {d : Direction} {a : Action} {outcome : Except DbError Unit}
    (inside : .performed id d a outcome ∈ es) : ⟨id, d, a, outcome⟩ ∈ executionsIn es :=
  List.mem_filterMap.mpr ⟨_, inside, rfl⟩

theorem down_of_quiet (quiet : executionsIn es = []) :
    ∀ x ∈ executionsIn es, x.direction = .down := by
  intro x inside
  rw [quiet] at inside
  cases inside

theorem Spent.of_append (h : Spent t id (es ++ fs)) :
    Spent t id es ∨ ∃ a, ⟨id, .up, a, .ok ()⟩ ∈ executionsIn fs := by
  obtain ⟨before, a, between, same, unreleased⟩ := h
  rcases split_append same with ⟨rest, rfl, rfl⟩ | ⟨rest, rfl, rfl⟩
  · exact .inl ⟨before, a, rest, rfl, fun released => unreleased (released.append fs)⟩
  · exact .inr ⟨a, execution_of_performed (List.mem_append_right rest List.mem_cons_self)⟩

/-- Each of the new executions is of a migration that is not `Spent` when it comes to it. -/
theorem AtMostOnce.append (h : AtMostOnce t es)
    (fresh : ∀ before id a outcome after, fs = before ++ .performed id .up a outcome :: after →
      ¬Spent t id (es ++ before)) : AtMostOnce t (es ++ fs) := by
  intro before id a between a' outcome after same
  rw [← List.cons_append, ← List.append_assoc] at same
  rcases split_append same with ⟨rest, inside, -⟩ | ⟨rest, outside, inside⟩
  · rw [List.append_assoc, List.cons_append] at inside
    exact h before id a between a' outcome rest inside
  · apply Classical.byContradiction
    intro unreleased
    exact fresh rest id a' outcome after inside ⟨before, a, between, outside.symm, unreleased⟩

theorem AtMostOnce.append_down (h : AtMostOnce t es)
    (down : ∀ x ∈ executionsIn fs, x.direction = .down) : AtMostOnce t (es ++ fs) := by
  apply h.append
  rintro before id a outcome after rfl
  have up := down ⟨id, .up, a, outcome⟩
    (execution_of_performed (List.mem_append_right before List.mem_cons_self))
  cases up

theorem Spent.of_append_down (h : Spent t id (es ++ fs))
    (down : ∀ x ∈ executionsIn fs, x.direction = .down) : Spent t id es := by
  rcases h.of_append with spent | ⟨a, succeeded⟩
  · exact spent
  · cases down _ succeeded

/-- A rollback step that deletes a row releases its migration. -/
theorem not_spent_of_rollback (a : Action) (n : Nat) :
    ¬Spent t id (es ++ [.performed id .down a (.ok ()), t.carriedOut (.delete id.text) (n + 1)]) := by
  rintro ⟨before, a', between, same, unreleased⟩
  rcases split_append same with ⟨rest, rfl, rfl⟩ | ⟨rest, rfl, inside⟩
  · exact unreleased (.inl ⟨rest, a, n, [], rfl⟩)
  · have among : Event.performed id .up a' (.ok ()) ∈
        [.performed id .down a (.ok ()), t.carriedOut (.delete id.text) (n + 1)] :=
      inside ▸ List.mem_append_right rest List.mem_cons_self
    cases List.mem_singleton.mp (execution_of_performed among)

theorem not_spent_of_drop : ¬Spent t id (es ++ [.called (.dropTable t.table) (.ok ())]) := by
  rintro ⟨before, a', between, same, unreleased⟩
  rcases split_append same with ⟨rest, rfl, rfl⟩ | ⟨rest, rfl, inside⟩
  · exact unreleased (.inr (List.mem_append_right rest List.mem_cons_self))
  · have among : Event.performed id .up a' (.ok ()) ∈ [.called (.dropTable t.table) (.ok ())] :=
      inside ▸ List.mem_append_right rest List.mem_cons_self
    cases execution_of_performed among

end

/-- A row keeps a migration from being executed: it is there, so that nothing begins, and no row is
    failed, so that nothing is tried again. -/
structure Shielded (rows : List TrackingRow) (id : MigrationId) : Prop where
  present : ∃ row ∈ rows, row.hasId id.text = true
  unfailed : ∀ row ∈ rows, row.hasId id.text = true → row.status ≠ some failedStatus

namespace Shielded

variable {table changed : TrackingTable} {id : MigrationId}

theorem insert (h : Shielded table.rows id) {row : TrackingRow} {affected : Nat}
    (inserted : (do
      let t ← table.insert row
      .ok (t, 1)) = .ok (changed, affected))
    (unfailed : row.status ≠ some failedStatus) : Shielded changed.rows id := by
  unfold TrackingTable.insert at inserted
  split at inserted
  · cases inserted
  · cases inserted
    obtain ⟨⟨own, inside, has⟩, kept⟩ := h
    refine ⟨⟨own, List.mem_append_left _ inside, has⟩, fun other inside has => ?_⟩
    rcases List.mem_append.mp inside with inside | inside
    · exact kept other inside has
    · rwa [List.mem_singleton.mp inside]

theorem update (h : Shielded table.rows id) {selected : TrackingRow → Bool}
    {f : TrackingRow → TrackingRow} (same_id : ∀ r, (f r).id = r.id)
    (unfailed : ∀ r, selected r = true → r.hasId id.text = true →
      (f r).status ≠ some failedStatus) :
    Shielded (table.update selected f).1.rows id := by
  obtain ⟨⟨own, inside, has⟩, kept⟩ := h
  refine ⟨⟨_, List.mem_map_of_mem inside, ?_⟩, ?_⟩
  · split
    · rwa [TrackingRow.hasId, same_id]
    · exact has
  · intro other inside has
    obtain ⟨r, among, rfl⟩ := List.mem_map.mp inside
    by_cases chosen : selected r = true
    · rw [if_pos chosen, TrackingRow.hasId, same_id] at has
      rw [if_pos chosen]
      exact unfailed r chosen has
    · rw [if_neg chosen] at has ⊢
      exact kept r among has

theorem remove (h : Shielded table.rows id) {other : String} (different : id.text ≠ other) :
    Shielded (table.remove (·.hasId other)).1.rows id := by
  obtain ⟨⟨own, inside, has⟩, kept⟩ := h
  refine ⟨⟨own, List.mem_filter.mpr ⟨inside, ?_⟩, has⟩, fun row inside => ?_⟩
  · rw [Bool.not_eq_true', ← Bool.not_eq_true, TrackingRow.hasId_iff, TrackingRow.hasId_iff.mp has]
    exact fun same => different (Option.some.inj same)
  · exact kept row (List.mem_filter.mp inside).1

theorem not_of_absent {rows : List TrackingRow} (absent : rows.find? (·.hasId id.text) = none) :
    ¬Shielded rows id := by
  rintro ⟨⟨row, inside, has⟩, -⟩
  exact List.find?_eq_none.mp absent row inside has

theorem of_inserted {rows : List TrackingRow} {row : TrackingRow}
    (absent : rows.find? (·.hasId id.text) = none) (own : row.id = some id.text)
    (unfailed : row.status ≠ some failedStatus) : Shielded (rows ++ [row]) id := by
  refine ⟨⟨row, List.mem_append_right _ List.mem_cons_self, TrackingRow.hasId_iff.mpr own⟩, ?_⟩
  intro other inside has
  rcases List.mem_append.mp inside with inside | inside
  · exact (List.find?_eq_none.mp absent other inside has).elim
  · rwa [List.mem_singleton.mp inside]

theorem of_restarted {row : TrackingRow} {f : TrackingRow → TrackingRow} (inside : row ∈ table.rows)
    (failed : row.isAt id.text failedStatus = true) (same_id : ∀ r, (f r).id = r.id)
    (unfailed : ∀ r, (f r).status ≠ some failedStatus) :
    Shielded (table.update (·.isAt id.text failedStatus) f).1.rows id := by
  refine ⟨⟨_, List.mem_map_of_mem inside, ?_⟩, ?_⟩
  · rw [if_pos failed, TrackingRow.hasId, same_id]
    exact TrackingRow.hasId_iff.mpr (TrackingRow.isAt_iff.mp failed).1
  · intro other among own known
    obtain ⟨r, old, rfl⟩ := List.mem_map.mp among
    by_cases chosen : r.isAt id.text failedStatus = true
    · rw [if_pos chosen] at known
      exact unfailed r known
    · rw [if_neg chosen] at own known
      exact chosen (TrackingRow.isAt_iff.mpr ⟨TrackingRow.hasId_iff.mp own, known⟩)

end Shielded

theorem inProgress_ne_failed : some inProgressStatus ≠ some failedStatus := by decide

theorem completed_ne_failed : some completedStatus ≠ some failedStatus := by decide

/-- A statement that cannot take away the shields of some migrations: only a failure and a deletion
    can, and they are about other ids. -/
def Change.Spares (S : MigrationId → Prop) : Change → Prop
  | .fail other _ _ | .delete other => ∀ id, S id → id.text ≠ other
  | .insertStarted .. | .insertCompleted .. | .complete .. | .restart .. | .settle .. => True

theorem Shielded.change {table changed : TrackingTable} {id : MigrationId}
    {S : MigrationId → Prop} {statement : Change} {affected : Nat} (h : Shielded table.rows id)
    (applied : statement.apply table = .ok (changed, affected)) (spares : statement.Spares S)
    (spared : S id) : Shielded changed.rows id := by
  cases statement with
  | insertStarted => exact h.insert applied inProgress_ne_failed
  | insertCompleted => exact h.insert applied completed_ne_failed
  | complete | settle =>
      cases applied
      exact h.update (fun _ => rfl) fun _ _ _ => completed_ne_failed
  | restart =>
      cases applied
      exact h.update (fun _ => rfl) fun _ _ _ => inProgress_ne_failed
  | fail other now reason =>
      cases applied
      -- A row that this statement selects has the other id.
      refine h.update (fun _ => rfl) fun r chosen has => ?_
      have same := (TrackingRow.isAt_iff.mp chosen).1.symm.trans (TrackingRow.hasId_iff.mp has)
      exact (spares id spared (Option.some.inj same).symm).elim
  | delete other =>
      cases applied
      exact h.remove (spares id spared)

/-- A request that executes nothing and cannot take away the shields of some migrations. -/
def Request.Spares (t : Tracker) (S : MigrationId → Prop) : Request → Prop
  | .note .. | .readClock => True
  | .call (.relationExists _) | .call (.createSchema _) | .call (.createTable _)
  | .call (.select ..) => True
  | .call (.change name statement) => name = t.table ∧ statement.Spares S
  | .call (.dropTable _) | .call (.batch _) | .perform .. => False

theorem Request.Spares.of_idle {t : Tracker} {S : MigrationId → Prop} {r : Request}
    (idle : r.IsIdle) : r.Spares t S := by
  cases r with
  | note => trivial
  | readClock | perform => exact idle.elim
  | call c =>
      cases c with
      | relationExists | createSchema | createTable | select => trivial
      | dropTable | change | batch => exact idle.elim

/-- `w'` comes after `w` with no forward action executed in between, and some migrations that were
    shielded still are. -/
structure World.Spares (w : World) (t : Tracker) (S : MigrationId → Prop) (w' : World) : Prop where
  events : ∃ es, w'.events = w.events ++ es ∧ ∀ x ∈ executionsIn es, x.direction = .down
  shielded : ∀ id, S id → Shielded (w.database.trackingRows t.table) id →
    Shielded (w'.database.trackingRows t.table) id

namespace World.Spares

variable {w w' w'' : World} {t : Tracker} {S : MigrationId → Prop}

theorem refl (w : World) : w.Spares t S w :=
  ⟨⟨[], (List.append_nil _).symm, down_of_quiet rfl⟩,
    fun _ _ shielded => shielded⟩

theorem trans (first : w.Spares t S w') (second : w'.Spares t S w'') : w.Spares t S w'' := by
  obtain ⟨es, events, down⟩ := first.events
  obtain ⟨fs, events', down'⟩ := second.events
  refine ⟨⟨es ++ fs, by rw [events', events, List.append_assoc], fun x inside => ?_⟩, ?_⟩
  · rw [executionsIn_append] at inside
    exact (List.mem_append.mp inside).elim (down x) (down' x)
  · intro id spared shielded
    exact second.shielded id spared (first.shielded id spared shielded)

theorem spent_before (h : w.Spares t S w') {id : MigrationId} (spent : Spent t id w'.events) :
    Spent t id w.events := by
  obtain ⟨es, events, down⟩ := h.events
  rw [events] at spent
  exact spent.of_append_down down

theorem of_rows {es : List Event} (events : w'.events = w.events ++ es)
    (down : ∀ x ∈ executionsIn es, x.direction = .down)
    (rows : w'.database.trackingRows t.table = w.database.trackingRows t.table) :
    w.Spares t S w' :=
  ⟨⟨es, events, down⟩, fun _ _ shielded => rows ▸ shielded⟩

theorem of_call (w : World) (c : Call)
    (kept : ∀ id, S id → Shielded (w.database.trackingRows t.table) id →
      Shielded ((w.database.answer c).2.trackingRows t.table) id) :
    w.Spares t S (w.call c).2 := by
  have events := (w.call_leads c).events
  refine ⟨⟨_, events, down_of_quiet rfl⟩, ?_⟩
  obtain ⟨e, w', ends, same, -⟩ | ⟨w', ends, same, -⟩ := w.call_cases c
  · rw [ends, same]
    exact fun _ _ shielded => shielded
  · rw [ends, same]
    exact kept

theorem of_request {r : Request} (spares : r.Spares t S) (w : World) :
    w.Spares t S (respond r w).2 := by
  cases r with
  | note level text => exact of_rows (w.leadsTo_record _).events (down_of_quiet rfl) rfl
  | readClock => exact of_rows w.leadsTo_now.events (down_of_quiet rfl) rfl
  | perform => exact spares.elim
  | call c =>
      apply of_call w c
      intro id spared shielded
      cases c with
      | relationExists | select => exact shielded
      | createSchema schema =>
          rwa [Database.answer, Database.trackingRows_congr
            (w.database.find?_createSchema schema t.table.relation)]
      | createTable other => rwa [w.database.trackingRows_createTable t.table other]
      | dropTable | batch => exact spares.elim
      | change name statement =>
          obtain ⟨rfl, spares⟩ := spares
          rcases w.database.change_cases t.table statement with
            ⟨e, refused⟩ | ⟨table, changed, affected, stored, applied, answered⟩
          · rwa [Database.answer, refused]
          · rw [stored.trackingRows_eq] at shielded
            rw [Database.answer, answered, (stored.replaced changed).trackingRows_eq]
            exact shielded.change applied spares spared

theorem of_asks {α : Type} {x : Engine α} (asks : Engine.Asks (Request.Spares t S) x) (w : World) :
    w.Spares t S (w.run x).2 :=
  Script.Asks.keeps (fun _ w' spares so_far => trans so_far (of_request spares w')) asks (refl w)

end World.Spares

theorem admitsSettling_spares (t : Tracker) (S : MigrationId → Prop) :
    AdmitsSettling (Request.Spares t S) t where
  select _ := trivial
  relationExists := trivial
  note _ _ := trivial
  createSchema _ := trivial
  createTable := trivial
  clock := trivial
  insertCompleted _ _ _ := ⟨rfl, trivial⟩
  settle _ _ _ := ⟨rfl, trivial⟩

/-- Nothing was executed too often (`AtMostOnce`), and what is `Spent` is `Shielded`. -/
structure Consistent (t : Tracker) (w : World) : Prop where
  once : AtMostOnce t w.events
  shielded : ∀ id, Spent t id w.events → Shielded (w.database.trackingRows t.table) id

namespace Consistent

variable {t : Tracker} {w w' : World} {S : MigrationId → Prop}

theorem of_spares (h : Consistent t w) (spares : w.Spares t S w')
    (covered : ∀ id, Spent t id w'.events → S id) : Consistent t w' where
  once := by
    obtain ⟨es, events, down⟩ := spares.events
    rw [events]
    exact h.once.append_down down
  shielded id spent :=
    spares.shielded id (covered id spent) (h.shielded id (spares.spent_before spent))

theorem of_asks {α : Type} (h : Consistent t w) {x : Engine α}
    (asks : Engine.Asks (Request.Spares t fun _ => True) x) : Consistent t (w.run x).2 :=
  h.of_spares (.of_asks asks w) fun _ _ => trivial

end Consistent

end SchemaMigration
