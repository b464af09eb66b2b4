import SchemaMigration.Proofs.Surveying

/-! # Settling migrations

Recording migrations as completed, one after the other. Each takes the row of its migration to a
completed one and no other row, so that however far a sequence of them comes, what it leaves is told by
the ids that were reached (`Settled`). Ids that are settled do not settle again, so that two parts of a
sequence come to what the whole comes to.
-/

namespace SchemaMigration

open World

section
variable {rows : List TrackingRow} {id : MigrationId} {row : TrackingRow}
variable (own : row.id = some id.text)
include own

theorem find?_putRow_self : (putRow rows id row).find? (·.hasId id.text) = some row := by
  have mine : row.hasId id.text = true := TrackingRow.hasId_iff.mpr own
  unfold putRow
  split
  · rename_i present
    induction rows with
    | nil => simp at present
    | cons r rest ih =>
        rw [List.map_cons, List.find?_cons]
        by_cases same : r.hasId id.text = true
        · simp only [same, if_true, mine]
        · have later : rest.any (·.hasId id.text) = true := by
            simpa only [List.any_cons, same, Bool.false_or] using present
          simp only [same, Bool.false_eq_true, if_false, ih later]
  · rename_i absent
    have none_there : rows.find? (·.hasId id.text) = none := by
      rw [List.find?_eq_none]
      intro r inside same
      exact absent (List.any_eq_true.mpr ⟨r, inside, same⟩)
    rw [List.find?_append, none_there, List.find?_cons, mine]
    rfl

omit own in
theorem mem_of_mem_putRow {other : TrackingRow} (inside : other ∈ putRow rows id row) :
    other = row ∨ other ∈ rows := by
  unfold putRow at inside
  split at inside
  · obtain ⟨old, among, rfl⟩ := List.mem_map.mp inside
    split
    · exact .inl rfl
    · exact .inr among
  · rcases List.mem_append.mp inside with old | new
    · exact .inr old
    · exact .inl (List.mem_singleton.mp new)

theorem unique_putRow (unique : (rows.map TrackingRow.id).Nodup) :
    ((putRow rows id row).map TrackingRow.id).Nodup := by
  unfold putRow
  split
  · have ids : (rows.map fun r => if r.hasId id.text then row else r).map TrackingRow.id =
        rows.map TrackingRow.id := by
      rw [List.map_map]
      apply List.map_congr_left
      intro r _
      by_cases same : r.hasId id.text = true
      · simp only [Function.comp, same, if_true, own, TrackingRow.hasId_iff.mp same]
      · simp only [Function.comp, same, Bool.false_eq_true, if_false]
    rw [ids]
    exact unique
  · rename_i absent
    rw [List.map_append, List.nodup_append]
    refine ⟨unique, List.nodup_singleton _, ?_⟩
    rintro x old y new rfl
    obtain ⟨r, inside, rfl⟩ := List.mem_map.mp old
    rw [List.map_cons, List.map_nil, List.mem_singleton, own] at new
    exact absent (List.any_eq_true.mpr ⟨r, inside, TrackingRow.hasId_iff.mpr new⟩)

theorem Legible.putRow (legible : Legible rows) (decodes : ∃ r, row.decode = .ok r) :
    Legible (putRow rows id row) where
  decodes other inside := by
    rcases mem_of_mem_putRow inside with rfl | old
    · exact decodes
    · exact legible.decodes other old
  unique := unique_putRow own legible.unique

end

theorem TrackingRow.start_of_decode {row : TrackingRow} {r : MigrationRecord}
    (h : row.decode = .ok r) : ∃ start, row.startedAt = some start ∧ start.toInstant = .ok r.startedAt := by
  unfold decode at h
  split at h
  · split at h
    · split at h
      · split at h
        · rename_i start begun
          cases first : start.toInstant with
          | error fault => simp only [first, bind, Except.bind, reduceCtorEq] at h
          | ok startedAt =>
          cases last : row.finishedAt.mapM Timestamp.toInstant with
          | error fault => simp only [first, last, bind, Except.bind, reduceCtorEq] at h
          | ok finishedAt =>
          simp only [first, last, bind, Except.bind, pure, Except.pure, Except.ok.injEq] at h
          subst h
          exact ⟨start, begun, first⟩
        · cases h
      · cases h
    · cases h
  · cases h

theorem TrackingRow.decode_finished {row : TrackingRow} {id : MigrationId} {s : MigrationStatus}
    {start : Timestamp} {instant : Time.Instant} {finish : Time.Reading}
    (own : row.id = some id.text) (status : row.status = some s.text)
    (begun : row.startedAt = some start) (read : start.toInstant = .ok instant)
    (ended : row.finishedAt = some (.ofReading finish)) :
    row.decode = .ok ⟨id, s, instant, some finish.toInstant, row.checksum, row.failureReason⟩ := by
  have known : MigrationId.ofText? id.text = some id := MigrationId.ofText?_text id
  simp [decode, own, known, status, begun, read, ended, Timestamp.toInstant_ofReading, bind, Except.bind]
  rfl

theorem Legible.start_rowOf {rows : List TrackingRow} (h : Legible rows) (id : MigrationId) :
    ∀ start ∈ (rowOf rows id).startedAt, ∃ instant, start.toInstant = .ok instant := by
  intro start begun
  unfold rowOf at begun
  cases found : rows.find? (·.hasId id.text) with
  | none =>
      rw [found] at begun
      cases begun
  | some row =>
      rw [found, Option.getD_some] at begun
      obtain ⟨r, decoded⟩ := h.decodes row (List.mem_of_find?_eq_some found)
      obtain ⟨own, same, read⟩ := TrackingRow.start_of_decode decoded
      obtain rfl : own = start := Option.some.inj (same.symm.trans begun)
      exact ⟨_, read⟩

section
variable {rows : List TrackingRow} {id : MigrationId} (now : Time.Reading) (checksum : Option String)

theorem settledRow_id (rows : List TrackingRow) (id : MigrationId) :
    (settledRow (.ofReading now) checksum (rowOf rows id)).id = some id.text :=
  rowOf_id rows id

theorem state_settledRow (old : TrackingRow) :
    (settledRow (.ofReading now) checksum old).state = .completed := rfl

theorem Legible.decode_settled (h : Legible rows) (id : MigrationId) :
    ∃ r, (settledRow (.ofReading now) checksum (rowOf rows id)).decode = .ok r := by
  have finish : (Timestamp.ofReading now).toInstant = .ok now.toInstant := Timestamp.toInstant_ofReading now
  obtain ⟨start, instant, begun, read⟩ : ∃ start instant,
      (rowOf rows id).startedAt.or (some (.ofReading now)) = some start ∧
        start.toInstant = .ok instant := by
    cases first : (rowOf rows id).startedAt with
    | none => exact ⟨_, _, rfl, finish⟩
    | some start =>
        obtain ⟨instant, read⟩ := h.start_rowOf id start first
        exact ⟨start, instant, rfl, read⟩
  exact ⟨_, TrackingRow.decode_finished (s := .completed) (settledRow_id now checksum rows id) rfl begun
    read rfl⟩

end

/-- Of a table, the rows of chosen ids were settled, at some times and with given checksums, and the
    rows of all other ids stayed. -/
structure Settled (checksum? : MigrationId → Option String) (chosen : MigrationId → Prop)
    (rows rows' : List TrackingRow) : Prop where
  legible : Legible rows'
  settled : ∀ id, chosen id → ∃ now, rows'.find? (·.hasId id.text) =
    some (settledRow (.ofReading now) (checksum? id) (rowOf rows id))
  kept : ∀ id, ¬chosen id → rows'.find? (·.hasId id.text) = rows.find? (·.hasId id.text)

namespace Settled

variable {checksum? : MigrationId → Option String} {chosen chosen' : MigrationId → Prop}
variable {rows rows' rows'' : List TrackingRow}

theorem refl (legible : Legible rows) : Settled checksum? (fun _ => False) rows rows :=
  ⟨legible, fun _ impossible => impossible.elim, fun _ _ => rfl⟩

theorem one (legible : Legible rows) (id : MigrationId) (now : Time.Reading) :
    Settled checksum? (· = id) rows
      (putRow rows id (settledRow (.ofReading now) (checksum? id) (rowOf rows id))) where
  legible := legible.putRow (settledRow_id now _ rows id) (legible.decode_settled now _ id)
  settled := by
    rintro _ rfl
    exact ⟨now, find?_putRow_self (settledRow_id now _ rows _)⟩
  kept _ other := find?_putRow_of_ne (settledRow_id now _ rows id) other

theorem congr (h : Settled checksum? chosen rows rows') (same : ∀ id, chosen' id ↔ chosen id) :
    Settled checksum? chosen' rows rows' where
  legible := h.legible
  settled id among := h.settled id ((same id).mp among)
  kept id other := h.kept id fun among => other ((same id).mpr among)

theorem trans (first : Settled checksum? chosen rows rows')
    (second : Settled checksum? chosen' rows' rows'') (apart : ∀ id, chosen id → ¬chosen' id) :
    Settled checksum? (fun id => chosen id ∨ chosen' id) rows rows'' where
  legible := second.legible
  settled id among := by
    by_cases later : chosen' id
    · have untouched : ¬chosen id := fun earlier => apart id earlier later
      obtain ⟨now, found⟩ := second.settled id later
      rw [rowOf, first.kept id untouched] at found
      exact ⟨now, found⟩
    · obtain ⟨now, found⟩ := first.settled id (among.resolve_right later)
      exact ⟨now, (second.kept id later).trans found⟩
  kept id other := by
    rw [second.kept id (not_or.mp other).2, first.kept id (not_or.mp other).1]

variable (h : Settled checksum? chosen rows rows')
include h

theorem stateIn_chosen {id : MigrationId} (among : chosen id) : stateIn rows' id = .completed := by
  obtain ⟨now, found⟩ := h.settled id among
  rw [stateIn, found]
  exact state_settledRow ..

theorem stateIn_other {id : MigrationId} (other : ¬chosen id) :
    stateIn rows' id = stateIn rows id := by
  rw [stateIn, stateIn, h.kept id other]

theorem mem_chosen {id : MigrationId} (among : chosen id) :
    ∃ row ∈ rows', row.id = some id.text ∧ row.status = some completedStatus ∧
      row.failureReason = none ∧ row.checksum = (checksum? id).or (rowOf rows id).checksum := by
  obtain ⟨now, found⟩ := h.settled id among
  obtain ⟨inside, own⟩ := h.legible.find?_iff.mp found
  exact ⟨_, inside, own, rfl, rfl, rfl⟩

theorem mem_iff (legible : Legible rows) {row : TrackingRow}
    (other : ∀ id : MigrationId, row.id = some id.text → ¬chosen id) : row ∈ rows' ↔ row ∈ rows := by
  -- A row of either table has an id, by which it is found there.
  have found_in {table : List TrackingRow} (legible : Legible table) (inside : row ∈ table) :
      ∃ id : MigrationId, row.id = some id.text ∧ table.find? (·.hasId id.text) = some row := by
    obtain ⟨r, -, holds⟩ := legible.holds inside
    exact ⟨r.id, holds.id, legible.find?_iff.mpr ⟨inside, holds.id⟩⟩
  constructor
  · intro inside
    obtain ⟨id, own, found⟩ := found_in h.legible inside
    exact List.mem_of_find?_eq_some ((h.kept id (other id own)).symm.trans found)
  · intro inside
    obtain ⟨id, own, found⟩ := found_in legible inside
    exact List.mem_of_find?_eq_some ((h.kept id (other id own)).trans found)

end Settled

section
variable {w : World} {t : Tracker} {table : TrackingTable} (checksum? : MigrationId → Option String)
variable (stored : w.database.Stores t.table table) (legible : Legible table.rows)
include stored legible

theorem settle_ends (id : MigrationId) :
    ∃ result changed w', w.run (t.forceComplete id (checksum? id)) = (result, w') ∧
      w'.database.Stores t.table changed ∧ (w.faults = [] → w'.faults = []) ∧
      ((∃ e, result = .error e ∧ changed = table ∧ w.faults ≠ []) ∨
        result = .ok (stateIn table.rows id) ∧
          Settled checksum? (· = id) table.rows changed.rows) := by
  obtain ⟨es, attempts⟩ := forceComplete_follows id stored legible (checksum? id)
  cases attempts with
  | struck e w' n fs ends stores leads quiet armed =>
      exact ⟨_, table, w', ends, stores, leads.faults, .inl ⟨_, rfl, rfl, armed⟩⟩
  | answered w' ends stores leads =>
      exact ⟨_, _, w', ends, stores, leads.faults, .inr ⟨rfl, .one legible id _⟩⟩

/-- A sequence settles its ids up to the one at which a call fails. -/
theorem settleAll_ends (cs : List MarkCandidate) (distinct : (cs.map MarkCandidate.id).Nodup)
    (given : ∀ c ∈ cs, c.checksum = checksum? c.id) :
    ∃ result done rest changed w',
      w.run (cs.forM fun c => discard (t.forceComplete c.id c.checksum)) = (result, w') ∧
      cs = done ++ rest ∧ w'.database.Stores t.table changed ∧
      Settled checksum? (· ∈ done.map MarkCandidate.id) table.rows changed.rows ∧
      (w.faults = [] → result = .ok () ∧ rest = []) := by
  induction cs generalizing w table with
  | nil =>
      refine ⟨.ok (), [], [], table, w, rfl, rfl, stored, ?_, fun _ => ⟨rfl, rfl⟩⟩
      exact (Settled.refl legible).congr fun id => by simp
  | cons c rest ih =>
      obtain ⟨fresh, distinct⟩ := List.nodup_cons.mp distinct
      obtain ⟨result, changed, w₁, ends, stored₁, still, ends_as⟩ :=
        settle_ends checksum? stored legible c.id
      rw [← given c List.mem_cons_self] at ends
      rw [List.forM, World.run_bind, World.run_discard, ends]
      rcases ends_as with ⟨e, rfl, rfl, armed⟩ | ⟨rfl, first⟩
      · refine ⟨_, [], c :: rest, changed, w₁, rfl, rfl, stored₁, ?_, fun calm => (armed calm).elim⟩
        exact (Settled.refl legible).congr fun id => by simp
      · obtain ⟨result, done, left, changed', w₂, others, parts, stored₂, second, whole⟩ :=
          ih stored₁ first.legible distinct fun other inside =>
            given other (List.mem_cons_of_mem c inside)
        refine ⟨result, c :: done, left, changed', w₂, others, ?_, stored₂, ?_,
          fun calm => whole (still calm)⟩
        · rw [parts, List.cons_append]
        · -- The ids are distinct, so that the first one is not settled once more.
          have apart : ∀ id, id = c.id → ¬id ∈ done.map MarkCandidate.id := by
            rintro _ rfl again
            rw [parts, List.map_append] at fresh
            exact fresh (List.mem_append_left _ again)
          refine (first.trans second apart).congr fun id => ?_
          rw [List.map_cons, List.mem_cons]

end

end SchemaMigration
