import SchemaMigration.Proofs.Stages

/-! # Paths of the state diagram

Along which `Edge` a statement leads the state of a migration, on any table with a primary key. The rows
need not be legible: a row whose status is no known word has no state, and nothing but a removal leads on
from it.
-/

namespace SchemaMigration

inductive Edge where
  | moved (transition : Transition)
  | removed
  deriving DecidableEq

/-- The edge that a statement goes along. Settling is not part of the diagram. -/
def Change.edge? : Change → Option Edge
  | insertStarted .. => some (.moved .begin)
  | complete .. => some (.moved .complete)
  | fail .. => some (.moved .fail)
  | restart .. => some (.moved .retry)
  | delete _ => some .removed
  | insertCompleted .. | settle .. => none

/-- The state that a row shows, if its status is a known word. -/
def TrackingRow.state? (row : TrackingRow) : Option MigrationState :=
  (row.status.bind MigrationStatus.ofText?).map MigrationStatus.toState

/-- The state that the rows of a table show for a migration, if they show one. -/
def stateIn? (rows : List TrackingRow) (id : MigrationId) : Option MigrationState :=
  match rows.find? (·.hasId id.text) with
  | some row => row.state?
  | none => some .pending

/-- An edge leads from one state to another. -/
inductive Edge.Leads : Edge → Option MigrationState → Option MigrationState → Prop
  | begin : Leads (.moved .begin) (some .pending) (some .inProgress)
  | complete : Leads (.moved .complete) (some .inProgress) (some .completed)
  | fail : Leads (.moved .fail) (some .inProgress) (some .failed)
  | retry : Leads (.moved .retry) (some .failed) (some .inProgress)
  | remove (s : Option MigrationState) (present : s ≠ some .pending) :
      Leads .removed s (some .pending)

/-- Statements lead along edges of the diagram, one after the other. -/
inductive Path : Option MigrationState → List Change → Option MigrationState → Prop
  | nil (s : Option MigrationState) : Path s [] s
  | cons {s s' s'' : Option MigrationState} {statement : Change} {rest : List Change} {edge : Edge}
      (own : statement.edge? = some edge) (leads : edge.Leads s s') (path : Path s' rest s'') :
      Path s (statement :: rest) s''

namespace Path

variable {s s' s'' : Option MigrationState} {writes before after : List Change}

theorem append (first : Path s before s') (second : Path s' after s'') :
    Path s (before ++ after) s'' := by
  induction first with
  | nil => exact second
  | cons own leads _ ih => exact .cons own leads (ih second)

theorem split (h : Path s (before ++ after) s'') : ∃ s', Path s before s' ∧ Path s' after s'' := by
  induction before generalizing s with
  | nil => exact ⟨s, .nil s, h⟩
  | cons statement rest ih =>
      cases h with
      | cons own leads path =>
          obtain ⟨mid, first, second⟩ := ih path
          exact ⟨mid, .cons own leads first, second⟩

theorem removed_of_pending (h : Path s writes (some .pending)) (begun : s ≠ some .pending) :
    ∃ statement ∈ writes, statement.edge? = some .removed := by
  generalize ends : some MigrationState.pending = last at h
  induction h with
  | nil => exact (begun ends.symm).elim
  | cons own leads path ih =>
      cases leads with
      | remove => exact ⟨_, List.mem_cons_self, own⟩
      | begin => exact (begun rfl).elim
      | complete | fail | retry =>
          obtain ⟨statement, inside, removed⟩ := ih (by simp) ends
          exact ⟨statement, List.mem_cons_of_mem _ inside, removed⟩

/-- Between two beginnings of a migration it was removed. -/
theorem removed_between {first second : Change}
    (h : Path s (before ++ first :: (writes ++ second :: after)) s'')
    (begun : first.edge? = some (.moved .begin)) (again : second.edge? = some (.moved .begin)) :
    ∃ statement ∈ writes, statement.edge? = some .removed := by
  obtain ⟨_, -, rest⟩ := h.split
  cases rest with
  | cons own leads rest =>
  obtain rfl := Option.some.inj (begun.symm.trans own)
  cases leads
  obtain ⟨mid, between, rest⟩ := rest.split
  cases rest with
  | cons own leads _ =>
  obtain rfl := Option.some.inj (again.symm.trans own)
  cases leads
  exact between.removed_of_pending (by simp)

end Path

section
variable {table changed : TrackingTable} {id other : MigrationId} {statement : Change} {affected : Nat}

theorem TrackingTable.absent_of_kept {row : TrackingRow} {id : String}
    (constrained : table.isConstrained = true) (kept : table.violation? row = none)
    (own : row.id = some id) : ∀ r ∈ table.rows, r.id ≠ some id := by
  simp only [violation?, constrained, own, Bool.not_true, Bool.false_eq_true, if_false] at kept
  intro r inside same
  have taken : table.rows.any (·.hasId id) = true :=
    List.any_eq_true.mpr ⟨r, inside, TrackingRow.hasId_iff.mpr same⟩
  simp only [taken, if_true] at kept
  split at kept <;> [cases kept; skip]
  split at kept <;> cases kept

namespace Change

variable (applied : statement.apply table = .ok (changed, affected))
include applied

theorem isConstrained_apply : changed.isConstrained = table.isConstrained := by
  cases statement with
  | insertStarted | insertCompleted => rw [(TrackingTable.insertion_inv applied).2.1]
  | complete | fail | restart | settle | delete =>
      cases applied
      rfl

theorem fits_of_constrained (constrained : table.isConstrained = true)
    (inserts : statement.inserts = true) : ∀ row ∈ table.rows, row.id ≠ some statement.about := by
  cases statement with
  | insertStarted | insertCompleted =>
      exact table.absent_of_kept constrained (TrackingTable.insertion_inv applied).1 rfl
  | complete | fail | restart | settle | delete => cases inserts

end Change

theorem TrackingRow.state?_ne_pending (row : TrackingRow) : row.state? ≠ some .pending := by
  unfold state?
  cases row.status.bind MigrationStatus.ofText? with
  | none => simp
  | some s => cases s <;> simp [MigrationStatus.toState]

section
variable {rows : List TrackingRow} (absent : ∀ r ∈ rows, r.id ≠ some id.text)
include absent

theorem find?_absent : rows.find? (·.hasId id.text) = none :=
  List.find?_eq_none.mpr fun r inside has => absent r inside (TrackingRow.hasId_iff.mp has)

theorem stateIn?_absent : stateIn? rows id = some .pending := by
  rw [stateIn?, find?_absent absent]

theorem stateIn?_append {row : TrackingRow} (own : row.id = some id.text) :
    stateIn? (rows ++ [row]) id = row.state? := by
  rw [stateIn?, List.find?_append, find?_absent absent, Option.none_or,
    List.find?_cons_of_pos (TrackingRow.hasId_iff.mpr own)]

end

theorem stateIn?_append_of_ne {rows : List TrackingRow} {row : TrackingRow}
    (other : row.id ≠ some id.text) : stateIn? (rows ++ [row]) id = stateIn? rows id := by
  have passed : ¬row.hasId id.text = true := fun has => other (TrackingRow.hasId_iff.mp has)
  rw [stateIn?, stateIn?, List.find?_append, List.find?_cons_of_neg passed, List.find?_nil,
    Option.or_none]

section
variable {selected : TrackingRow → Bool} {f : TrackingRow → TrackingRow}
variable (updated : table.update selected f = (changed, affected)) (same_id : ∀ r, (f r).id = r.id)
include updated same_id

theorem find?_update (text : String) :
    changed.rows.find? (·.hasId text) =
      (table.rows.find? (·.hasId text)).map fun r => if selected r then f r else r := by
  cases updated
  rw [List.find?_map]
  congr 2
  funext r
  by_cases chosen : selected r = true <;> simp [TrackingRow.hasId, chosen, same_id]

theorem stateIn?_update_of_ne {text : String} (own : ∀ r, selected r = true → r.id = some text)
    (different : text ≠ id.text) : stateIn? changed.rows id = stateIn? table.rows id := by
  rw [stateIn?, stateIn?, find?_update updated same_id]
  cases found : table.rows.find? (·.hasId id.text) with
  | none => rfl
  | some row =>
      have passed : ¬selected row = true := fun chosen =>
        different (Option.some.inj ((own row chosen).symm.trans
          (TrackingRow.hasId_iff.mp (List.find?_some found))))
      rw [Option.map_some, if_neg passed]

end

/-- With a primary key, a statement that selects an id and a status and affects a row changes the one row
    with that id. -/
theorem found_updated {status : String} {f : TrackingRow → TrackingRow}
    (updated : table.update (·.isAt id.text status) f = (changed, affected)) (found : 0 < affected)
    (unique : (table.rows.map TrackingRow.id).Nodup) (same_id : ∀ r, (f r).id = r.id) :
    ∃ row, table.rows.find? (·.hasId id.text) = some row ∧ row.isAt id.text status = true ∧
      changed.rows.find? (·.hasId id.text) = some (f row) := by
  have counted : table.rows.countP (·.isAt id.text status) = affected := congrArg Prod.snd updated
  obtain ⟨row, inside, chosen⟩ := List.countP_pos_iff.mp (counted ▸ found)
  obtain ⟨own, -⟩ := TrackingRow.isAt_iff.mp chosen
  have at_id : table.rows.find? (·.hasId id.text) = some row := by
    obtain ⟨first, at_id⟩ := Option.isSome_iff_exists.mp
      (List.find?_isSome.mpr ⟨row, inside, TrackingRow.hasId_iff.mpr own⟩)
    have same := TrackingRow.hasId_iff.mp (List.find?_some at_id)
    rw [at_id, List.inj_on_of_nodup_map unique (List.mem_of_find?_eq_some at_id) inside
      (same.trans own.symm)]
  have after := find?_update updated same_id id.text
  rw [at_id, Option.map_some, if_pos chosen] at after
  exact ⟨row, at_id, chosen, after⟩

theorem stateIn?_update (s s' : MigrationStatus) {f : TrackingRow → TrackingRow}
    (updated : table.update (·.isAt id.text s.text) f = (changed, affected)) (found : 0 < affected)
    (unique : (table.rows.map TrackingRow.id).Nodup) (same_id : ∀ r, (f r).id = r.id)
    (writes : ∀ r, (f r).status = some s'.text) :
    stateIn? table.rows id = some s.toState ∧ stateIn? changed.rows id = some s'.toState := by
  obtain ⟨row, at_id, chosen, after⟩ := found_updated updated found unique same_id
  obtain ⟨-, status⟩ := TrackingRow.isAt_iff.mp chosen
  simp [stateIn?, at_id, after, TrackingRow.state?, status, writes]

theorem stateIn?_remove (removed : table.remove (·.hasId id.text) = (changed, affected))
    (found : 0 < affected) :
    stateIn? table.rows id ≠ some .pending ∧ stateIn? changed.rows id = some .pending := by
  cases removed
  obtain ⟨row, inside, has⟩ := List.countP_pos_iff.mp found
  constructor
  · obtain ⟨first, at_id⟩ := Option.isSome_iff_exists.mp (List.find?_isSome.mpr ⟨row, inside, has⟩)
    rw [stateIn?, at_id]
    exact first.state?_ne_pending
  · apply stateIn?_absent
    intro r kept own
    obtain ⟨-, passed⟩ := List.mem_filter.mp kept
    rw [Bool.not_eq_true', ← Bool.not_eq_true] at passed
    exact passed (TrackingRow.hasId_iff.mpr own)

theorem stateIn?_remove_of_ne {text : String}
    (removed : table.remove (·.hasId text) = (changed, affected)) (different : text ≠ id.text) :
    stateIn? changed.rows id = stateIn? table.rows id := by
  cases removed
  rw [stateIn?, stateIn?, List.find?_filter]
  congr 2
  funext r
  by_cases own : r.hasId id.text = true
  · have other : ¬r.hasId text = true := fun has => different (Option.some.inj
      ((TrackingRow.hasId_iff.mp has).symm.trans (TrackingRow.hasId_iff.mp own)))
    simp [own, other]
  · simp [own]

namespace Change

variable (applied : statement.apply table = .ok (changed, affected))
include applied

theorem stateIn?_of_ne (different : statement.about ≠ id.text) :
    stateIn? changed.rows id = stateIn? table.rows id := by
  cases statement with
  | insertStarted | insertCompleted =>
      rw [TrackingTable.rows_of_insertion applied]
      exact stateIn?_append_of_ne fun same => different (Option.some.inj same)
  | complete | fail | restart =>
      exact stateIn?_update_of_ne (Except.ok.inj applied) (fun _ => rfl)
        (fun r chosen => (TrackingRow.isAt_iff.mp chosen).1) different
  | settle =>
      exact stateIn?_update_of_ne (Except.ok.inj applied) (fun _ => rfl)
        (fun r chosen => TrackingRow.hasId_iff.mp chosen) different
  | delete => exact stateIn?_remove_of_ne (Except.ok.inj applied) different

/-- A statement that affects rows goes along its edge. -/
theorem leads (constrained : table.isConstrained = true)
    (unique : (table.rows.map TrackingRow.id).Nodup) (found : 0 < affected)
    (about : statement.about = id.text) {edge : Edge} (own : statement.edge? = some edge) :
    edge.Leads (stateIn? table.rows id) (stateIn? changed.rows id) := by
  have fits := fits_of_constrained applied constrained
  cases statement with
  | insertStarted text now =>
      obtain rfl : text = id.text := about
      cases own
      rw [TrackingTable.rows_of_insertion applied, stateIn?_absent (fits rfl),
        stateIn?_append (fits rfl) rfl]
      exact .begin
  | complete text now checksum =>
      obtain rfl : text = id.text := about
      cases own
      obtain ⟨before, after⟩ := stateIn?_update .inProgress .completed
        (Except.ok.inj applied) found unique (fun _ => rfl) fun _ => rfl
      rw [before, after]
      exact .complete
  | fail text now reason =>
      obtain rfl : text = id.text := about
      cases own
      obtain ⟨before, after⟩ := stateIn?_update .inProgress .failed
        (Except.ok.inj applied) found unique (fun _ => rfl) fun _ => rfl
      rw [before, after]
      exact .fail
  | restart text now =>
      obtain rfl : text = id.text := about
      cases own
      obtain ⟨before, after⟩ := stateIn?_update .failed .inProgress
        (Except.ok.inj applied) found unique (fun _ => rfl) fun _ => rfl
      rw [before, after]
      exact .retry
  | delete text =>
      obtain rfl : text = id.text := about
      cases own
      obtain ⟨before, after⟩ := stateIn?_remove (Except.ok.inj applied) found
      rw [after]
      exact .remove _ before
  | insertCompleted | settle => cases own

end Change

end

end SchemaMigration
