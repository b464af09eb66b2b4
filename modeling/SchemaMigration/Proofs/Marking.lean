import Mathlib.Data.Set.Card
import SchemaMigration.Proofs.Prediction
import SchemaMigration.Proofs.Settling

/-! # Marking all migrations

Marking looks once at the source and the table, and settles what its scope `Covers`: migrations without a
row, and rows that are failed or in progress, whether they belong to a migration of the source or not.
Nothing is executed, no other row changes, and the summary counts what there was.
-/

namespace SchemaMigration

open World

variable {migrations : List Migration} {rows : List TrackingRow} {records : List MigrationRecord}

def checksumOf? (migrations : List Migration) (id : MigrationId) : Option String :=
  (migrations.find? (·.id = id)).map Migration.checksum

theorem checksumOf?_source (distinct : (idsOf migrations).Nodup) {m : Migration}
    (inside : m ∈ migrations) : checksumOf? migrations m.id = some m.checksum := by
  rw [checksumOf?, (find?_key distinct).mpr ⟨inside, rfl⟩, Option.map_some]

theorem checksumOf?_orphan {id : MigrationId} (absent : id ∉ idsOf migrations) :
    checksumOf? migrations id = none := by
  rw [checksumOf?, Option.map_eq_none_iff, List.find?_eq_none]
  intro m inside same
  exact absent (List.mem_map.mpr ⟨m, inside, of_decide_eq_true same⟩)

/-- The ids that a scope covers: a migration of the source without a row, and what is failed or in
    progress when the scope includes it. -/
def MarkScope.Covers (scope : MarkScope) (migrations : List Migration) (rows : List TrackingRow)
    (id : MigrationId) : Prop :=
  stateIn rows id = .pending ∧ id ∈ idsOf migrations ∨
  stateIn rows id = .failed ∧ scope.includes .failed = true ∨
  stateIn rows id = .inProgress ∧ scope.includes .inProgress = true

/-- Whether a row is failed or in progress and belongs to no migration of the source. -/
def TrackingRow.isDirtyOrphan (migrations : List Migration) (row : TrackingRow) : Bool :=
  row.state.isDirty && !migrations.any fun m => row.hasId m.id.text

/-- What may be marked, once for each id: all migrations of the source, and what is failed or in progress
    beside them. -/
structure Candidates (migrations : List Migration) (rows : List TrackingRow)
    (cs : List MarkCandidate) : Prop where
  distinct : (cs.map MarkCandidate.id).Nodup
  state : ∀ c ∈ cs, c.state = stateIn rows c.id
  checksum : ∀ c ∈ cs, c.checksum = checksumOf? migrations c.id
  complete : ∀ id, id ∈ cs.map MarkCandidate.id ↔
    id ∈ idsOf migrations ∨ (stateIn rows id).isDirty = true
  length : cs.length = migrations.length + rows.countP (·.isDirtyOrphan migrations)

theorem MarkScope.covers_iff {scope : MarkScope} {id : MigrationId} :
    scope.Covers migrations rows id ↔ scope.includes (stateIn rows id) = true ∧
      (id ∈ idsOf migrations ∨ (stateIn rows id).isDirty = true) := by
  unfold Covers
  cases stateIn rows id <;> simp [includes, MigrationState.isDirty]

theorem mem_markCandidates (ascend : RecordsAscend records) {c : MarkCandidate} :
    c ∈ markCandidates migrations records ↔
      (∃ m ∈ migrations, c = ⟨m.id, some m.checksum, stateOf records m.id⟩) ∨
      ∃ record ∈ records, record.id ∉ idsOf migrations ∧ record.state.isDirty = true ∧
        c = ⟨record.id, none, record.state⟩ := by
  rw [markCandidates, List.mem_append, List.mem_map, List.mem_map]
  simp only [ascend.mem_dirtyOrphans, and_assoc, eq_comm]

theorem markCandidates_distinct (ascending : Ascending migrations) (ascend : RecordsAscend records) :
    ((markCandidates migrations records).map MarkCandidate.id).Nodup := by
  simp only [markCandidates, List.map_append, List.map_map]
  refine List.nodup_append.mpr ⟨ascending.distinct, ?_, ?_⟩
  · rw [ascend.orphans_eq]
    exact ((List.filter_sublist.trans List.filter_sublist).map _).nodup ascend.distinct
  · rintro id source _ beside rfl
    obtain ⟨record, among, rfl⟩ := List.mem_map.mp beside
    exact (ascend.mem_dirtyOrphans.mp among).2.1 source

theorem countP_decoded (decoded : (rows.mergeSort TrackingRow.idNotAfter).mapM Tracker.decodeRow =
      .ok records) {p : TrackingRow → Bool} {q : MigrationRecord → Bool}
    (same : ∀ row r, row.Holds r → p row = q r) : rows.countP p = records.countP q := by
  rw [← (List.mergeSort_perm rows TrackingRow.idNotAfter).countP_eq]
  generalize rows.mergeSort TrackingRow.idNotAfter = sorted at decoded ⊢
  have pairs := forall₂_of_mapM_ok decoded
  clear decoded
  induction pairs with
  | nil => rfl
  | cons first _ ih =>
      rw [List.countP_cons, List.countP_cons, ih, same _ _ (Tracker.holds_of_decodeRow first)]

theorem length_markCandidates (ascend : RecordsAscend records)
    (decoded : (rows.mergeSort TrackingRow.idNotAfter).mapM Tracker.decodeRow = .ok records) :
    (markCandidates migrations records).length =
      migrations.length + rows.countP (·.isDirtyOrphan migrations) := by
  have counted : rows.countP (·.isDirtyOrphan migrations) =
      records.countP fun r => r.state.isDirty && !migrations.any (·.id = r.id) := by
    refine countP_decoded decoded fun row r holds => ?_
    have own (m : Migration) : row.hasId m.id.text = decide (m.id = r.id) := by
      rw [Bool.eq_iff_iff, TrackingRow.hasId_iff, decide_eq_true_iff, holds.id]
      exact MigrationId.some_text_injective.eq_iff.trans eq_comm
    simp only [TrackingRow.isDirtyOrphan, holds.state_eq, own]
  rw [markCandidates, List.length_append, List.length_map, List.length_map, counted,
    ascend.orphans_eq, List.filter_filter, ← List.countP_eq_length_filter]

theorem candidates_of_records (ascending : Ascending migrations) (legible : Legible rows)
    (decoded : (rows.mergeSort TrackingRow.idNotAfter).mapM Tracker.decodeRow = .ok records) :
    Candidates migrations rows (markCandidates migrations records) := by
  have ascend := legible.records_ascend decoded
  have states := (Tracker.recorded_of_list decoded).stateOf_eq legible
  constructor
  · exact markCandidates_distinct ascending ascend
  · intro c inside
    rcases (mem_markCandidates ascend).mp inside with ⟨m, -, rfl⟩ | ⟨record, known, -, -, rfl⟩
    · exact states m.id
    · exact (ascend.stateOf_own known).symm.trans (states record.id)
  · intro c inside
    rcases (mem_markCandidates ascend).mp inside with ⟨m, among, rfl⟩ | ⟨record, -, absent, -, rfl⟩
    · exact (checksumOf?_source ascending.distinct among).symm
    · exact (checksumOf?_orphan absent).symm
  · intro id
    rw [List.mem_map]
    constructor
    · rintro ⟨c, inside, rfl⟩
      rcases (mem_markCandidates ascend).mp inside with ⟨m, among, rfl⟩ | ⟨record, known, -, dirty, rfl⟩
      · exact .inl (List.mem_map_of_mem among)
      · rw [← states, ascend.stateOf_own known]
        exact .inr dirty
    · intro either
      by_cases source : id ∈ idsOf migrations
      · obtain ⟨m, among, rfl⟩ := List.mem_map.mp source
        exact ⟨_, (mem_markCandidates ascend).mpr (.inl ⟨m, among, rfl⟩), rfl⟩
      · have dirty := either.resolve_left source
        rw [← states] at dirty
        have begun : stateOf records id ≠ .pending := by
          intro pending
          rw [pending] at dirty
          cases dirty
        obtain ⟨record, known, rfl, same⟩ := (ascend.stateOf_iff begun).mp rfl
        rw [← same] at dirty
        exact ⟨_, (mem_markCandidates ascend).mpr (.inr ⟨record, known, source, dirty, rfl⟩), rfl⟩
  · exact length_markCandidates ascend decoded

/-- The numbers of a summary, told by the ids that were in each class before. -/
structure MarkAllSummary.Tallies (summary : MarkAllSummary) (scope : MarkScope)
    (migrations : List Migration) (rows : List TrackingRow) : Prop where
  alreadyCompleted : summary.alreadyCompleted =
    {id | stateIn rows id = .completed ∧ id ∈ idsOf migrations}.ncard
  newlyMarked : summary.newlyMarked =
    {id | stateIn rows id = .pending ∧ id ∈ idsOf migrations}.ncard
  failedMarked : summary.failedMarked =
    {id | stateIn rows id = .failed ∧ scope.includes .failed = true}.ncard
  inProgressMarked : summary.inProgressMarked =
    {id | stateIn rows id = .inProgress ∧ scope.includes .inProgress = true}.ncard
  failedSkipped : summary.failedSkipped =
    {id | stateIn rows id = .failed ∧ scope.includes .failed = false}.ncard
  inProgressSkipped : summary.inProgressSkipped =
    {id | stateIn rows id = .inProgress ∧ scope.includes .inProgress = false}.ncard
  total : summary.total = migrations.length + rows.countP (·.isDirtyOrphan migrations)
  sum : summary.total = summary.alreadyCompleted + summary.newlyMarked + summary.failedMarked +
    summary.inProgressMarked + summary.failedSkipped + summary.inProgressSkipped

theorem countP_states {α : Type} (f : α → MigrationState) (as : List α) :
    as.length = as.countP (fun a => f a = .completed) + as.countP (fun a => f a = .pending) +
      as.countP (fun a => f a = .failed) + as.countP (fun a => f a = .inProgress) := by
  induction as with
  | nil => rfl
  | cons a rest ih =>
      simp only [List.countP_cons, List.length_cons, ih]
      cases f a <;> simp <;> omega

theorem MarkAllSummary.marked_of (scope : MarkScope) (cs : List MarkCandidate) :
    (MarkAllSummary.of scope cs).marked = (scope.select cs).length := by
  have each : (scope.select cs).length = cs.countP (fun c => c.state = .pending) +
      (if scope.includes .failed then cs.countP (fun c => c.state = .failed) else 0) +
      (if scope.includes .inProgress then cs.countP (fun c => c.state = .inProgress) else 0) := by
    rw [MarkScope.select, ← List.countP_eq_length_filter]
    induction cs with
    | nil => simp
    | cons c rest ih =>
        simp only [List.countP_cons, ih]
        cases c.state <;> cases scope <;> simp [MarkScope.includes] <;> omega
  rw [each]
  rfl

theorem ncard_eq_length {α : Type} [DecidableEq α] {as : List α} (distinct : as.Nodup)
    {P : α → Prop} (same : ∀ a, a ∈ as ↔ P a) : {a | P a}.ncard = as.length := by
  have listed : {a | P a} = (as.toFinset : Set α) := by
    ext a
    simp [same]
  rw [listed, Set.ncard_coe_finset, List.toFinset_card_of_nodup distinct]

namespace Candidates

variable {cs : List MarkCandidate} (h : Candidates migrations rows cs)
include h

theorem mem_select {scope : MarkScope} {id : MigrationId} :
    id ∈ (scope.select cs).map MarkCandidate.id ↔ scope.Covers migrations rows id := by
  rw [MarkScope.covers_iff, ← h.complete, List.mem_map, List.mem_map]
  constructor
  · rintro ⟨c, selected, rfl⟩
    obtain ⟨inside, included⟩ := List.mem_filter.mp selected
    rw [h.state c inside] at included
    exact ⟨included, c, inside, rfl⟩
  · rintro ⟨included, c, inside, rfl⟩
    rw [← h.state c inside] at included
    exact ⟨c, List.mem_filter.mpr ⟨inside, included⟩, rfl⟩

theorem distinct_select (scope : MarkScope) :
    ((scope.select cs).map MarkCandidate.id).Nodup :=
  (List.filter_sublist.map _).nodup h.distinct

theorem countP_eq {p : MarkCandidate → Bool} {P : MigrationId → Prop}
    (told : ∀ c ∈ cs, p c = true ↔ P c.id)
    (within : ∀ id, P id → id ∈ idsOf migrations ∨ (stateIn rows id).isDirty = true) :
    cs.countP p = {id | P id}.ncard := by
  rw [List.countP_eq_length_filter, ← List.length_map MarkCandidate.id]
  refine (ncard_eq_length ((List.filter_sublist.map _).nodup h.distinct) fun id => ?_).symm
  rw [List.mem_map]
  constructor
  · rintro ⟨c, chosen, rfl⟩
    obtain ⟨inside, holds⟩ := List.mem_filter.mp chosen
    exact (told c inside).mp holds
  · intro holds
    obtain ⟨c, inside, rfl⟩ := List.mem_map.mp ((h.complete id).mpr (within id holds))
    exact ⟨c, List.mem_filter.mpr ⟨inside, (told c inside).mpr holds⟩, rfl⟩

theorem countP_clean {s : MigrationState} (clean : s.isDirty = false) :
    cs.countP (·.state = s) = {id | stateIn rows id = s ∧ id ∈ idsOf migrations}.ncard := by
  refine h.countP_eq (fun c inside => ?_) fun id among => .inl among.2
  rw [decide_eq_true_iff, h.state c inside]
  refine ⟨fun same => ⟨same, ?_⟩, And.left⟩
  have known := (h.complete c.id).mp (List.mem_map_of_mem inside)
  rw [same, clean] at known
  exact known.resolve_right Bool.false_ne_true

theorem countP_dirty {s : MigrationState} (dirty : s.isDirty = true) (among : Bool) :
    (if among then cs.countP (·.state = s) else 0) =
      {id | stateIn rows id = s ∧ among = true}.ncard := by
  cases among with
  | false => simp
  | true =>
      refine h.countP_eq (fun c inside => ?_) fun id same => .inr (same.1 ▸ dirty)
      rw [decide_eq_true_iff, h.state c inside, and_iff_left rfl]

theorem tallies (scope : MarkScope) :
    (MarkAllSummary.of scope cs).Tallies scope migrations rows where
  alreadyCompleted := h.countP_clean rfl
  newlyMarked := h.countP_clean rfl
  failedMarked := h.countP_dirty rfl _
  inProgressMarked := h.countP_dirty rfl _
  failedSkipped := by
    simp only [← Bool.not_eq_true']
    exact h.countP_dirty rfl _
  inProgressSkipped := by
    simp only [← Bool.not_eq_true']
    exact h.countP_dirty rfl _
  total := h.length
  sum := by
    have whole := countP_states MarkCandidate.state cs
    simp only [MarkAllSummary.of]
    cases scope.includes .failed <;> cases scope.includes .inProgress <;> simp <;> omega

end Candidates

namespace Runner

variable {r : Runner} {scope : MarkScope} {consent : Consent} {w : World}

/-- Marking what was found by a survey. -/
def markSurveyed (t : Tracker) (scope : MarkScope)
    (found : List Migration × List MigrationRecord) : Engine MarkAllSummary := do
  let candidates := markCandidates found.1 found.2
  (scope.select candidates).forM fun c => discard (t.forceComplete c.id c.checksum)
  let summary := MarkAllSummary.of scope candidates
  Engine.note .info ("Marked " ++ toString summary.marked ++ " of " ++ toString summary.total ++
    " migration(s) completed (" ++ scope.describe ++ ")")
  return summary

theorem markAllCompleted_eq (given : consent.isGiven = true) :
    r.markAllCompleted scope consent = r.survey >>= markSurveyed r.tracker scope := by
  unfold markAllCompleted survey
  rw [given]
  simp only [bind_assoc, pure_bind]
  rfl

theorem markAllCompleted_asks (scope : MarkScope) {P : Request → Prop} (h : AdmitsSettling P r.tracker)
    (given : consent.isGiven = true) : Engine.Asks P (r.markAllCompleted scope consent) := by
  rw [markAllCompleted_eq given]
  refine (survey_asks h.toAdmitsMaking).bind fun found => ?_
  refine (Engine.asks_forM fun c _ => (h.forceComplete c.id c.checksum).map _).bind fun _ => ?_
  exact (Engine.asks_note (h.note _ _)).bind fun _ => Engine.asks_pure _

theorem markSurveyed_ends (scope : MarkScope) {t : Tracker} {table : TrackingTable}
    (stored : w.database.Stores t.table table) (legible : Legible table.rows)
    (candidates : Candidates migrations table.rows (markCandidates migrations records)) :
    ∃ result done rest changed w', w.run (markSurveyed t scope (migrations, records)) = (result, w') ∧
      scope.select (markCandidates migrations records) = done ++ rest ∧
      w'.database.Stores t.table changed ∧
      Settled (checksumOf? migrations) (· ∈ done.map MarkCandidate.id) table.rows changed.rows ∧
      (w.faults = [] →
        result = .ok (MarkAllSummary.of scope (markCandidates migrations records)) ∧ rest = []) := by
  obtain ⟨result, done, rest, changed, w', settles, parts, stored', settled, whole⟩ :=
    settleAll_ends (checksumOf? migrations) stored legible
      (scope.select (markCandidates migrations records)) (candidates.distinct_select scope)
      fun c inside => candidates.checksum c (List.mem_filter.mp inside).1
  unfold markSurveyed
  cases result with
  | error e =>
      refine ⟨.error e, done, rest, changed, w', World.run_bind_error settles _, parts, stored',
        settled, fun calm => ?_⟩
      cases (whole calm).1
  | ok =>
      refine ⟨_, done, rest, changed, _, World.run_bind_ok settles _, parts, stored', settled,
        fun calm => ⟨rfl, (whole calm).2⟩⟩

/-- However marking ends, it has settled some of the ids that its scope covers and left the table
    workable. When no call fails, it has settled all of them and sums them up. -/
theorem markAllCompleted_ends (scope : MarkScope) (given : consent.isGiven = true)
    (listed : r.source.list = .ok migrations) (workable : Workable r.tracker w.database) :
    ∃ result w', ∃ done : List MigrationId, w.run (r.markAllCompleted scope consent) = (result, w') ∧
      Workable r.tracker w'.database ∧
      Settled (checksumOf? migrations) (· ∈ done) (w.database.trackingRows r.tracker.table)
        (w'.database.trackingRows r.tracker.table) ∧
      (∀ id ∈ done, scope.Covers migrations (w.database.trackingRows r.tracker.table) id) ∧
      (w.faults = [] → ∃ cs, Candidates migrations (w.database.trackingRows r.tracker.table) cs ∧
        result = .ok (MarkAllSummary.of scope cs) ∧ done = (scope.select cs).map MarkCandidate.id) := by
  obtain ⟨found, w₁, surveys, idles, still, told⟩ := survey_ends workable
  rw [markAllCompleted_eq given]
  cases found with
  | error e =>
      refine ⟨.error e, w₁, [], World.run_bind_error surveys _, still, ?_, by simp, fun calm => ?_⟩
      · rw [idles.rows]
        exact (Settled.refl workable.legible).congr fun id => by simp
      · obtain ⟨records, w', succeeds⟩ := survey_succeeds workable listed calm
        rw [surveys] at succeeds
        cases succeeds
  | ok found =>
      obtain ⟨source, records⟩ := found
      obtain ⟨listed', decoded, table, stored⟩ := told source records rfl
      obtain rfl : source = migrations := Except.ok.inj (listed'.symm.trans listed)
      have candidates := candidates_of_records (Source.list_ascending listed) workable.legible decoded
      rw [← idles.rows, stored.trackingRows_eq] at candidates ⊢
      obtain ⟨result, done, rest, changed, w₂, marks, parts, stored', settled, whole⟩ :=
        markSurveyed_ends scope stored (stored.trackingRows_eq ▸ still.legible) candidates
      refine ⟨result, w₂, done.map MarkCandidate.id, (World.run_bind_ok surveys _).trans marks,
        .of_stores stored' settled.legible, ?_, fun id among => ?_, fun calm => ?_⟩
      · rwa [stored'.trackingRows_eq]
      · rw [← candidates.mem_select, parts, List.map_append]
        exact List.mem_append_left _ among
      · obtain ⟨es, leads, -⟩ := idles.leads
        obtain ⟨ends, rfl⟩ := whole (leads.faults calm)
        exact ⟨_, candidates, ends, by rw [parts, List.append_nil]⟩

end Runner

theorem MarkScope.Covers.ne_completed {scope : MarkScope} {id : MigrationId}
    (covered : scope.Covers migrations rows id) : stateIn rows id ≠ .completed := by
  rcases covered with ⟨state, -⟩ | ⟨state, -⟩ | ⟨state, -⟩ <;> rw [state] <;> nofun

theorem MarkScope.Covers.known {scope : MarkScope} {id : MigrationId}
    (covered : scope.Covers migrations rows id) :
    id ∈ idsOf migrations ∨ stateIn rows id ≠ .pending := by
  rcases covered with ⟨-, source⟩ | ⟨state, -⟩ | ⟨state, -⟩
  · exact .inl source
  · exact .inr (by rw [state]; nofun)
  · exact .inr (by rw [state]; nofun)

theorem Settled.completed_iff {checksum? : MigrationId → Option String} {scope : MarkScope}
    {rows' : List TrackingRow} (h : Settled checksum? (scope.Covers migrations rows) rows rows')
    {id : MigrationId} : stateIn rows id ≠ .completed ∧ stateIn rows' id = .completed ↔
      scope.Covers migrations rows id := by
  refine ⟨fun both => ?_, fun covered => ⟨covered.ne_completed, h.stateIn_chosen covered⟩⟩
  by_contra other
  exact both.1 ((h.stateIn_other other).symm.trans both.2)

theorem Runner.markAllCompleted_settles {r : Runner} (scope : MarkScope) {consent : Consent}
    {w : World} (given : consent.isGiven = true) (listed : r.source.list = .ok migrations)
    (workable : Workable r.tracker w.database) (calm : w.faults = []) :
    (w.run (r.markAllCompleted scope consent)).1.toBool = true ∧
      Settled (checksumOf? migrations)
        (scope.Covers migrations (w.database.trackingRows r.tracker.table))
        (w.database.trackingRows r.tracker.table)
        ((w.run (r.markAllCompleted scope consent)).2.database.trackingRows r.tracker.table) := by
  obtain ⟨result, w', done, marks, -, settled, -, whole⟩ :=
    markAllCompleted_ends scope given listed workable
  obtain ⟨cs, candidates, rfl, rfl⟩ := whole calm
  rw [marks]
  exact ⟨rfl, settled.congr fun id => candidates.mem_select.symm⟩

/-- What marking everything makes of the rows of a table, in the terms of `MarkScope.Covers`, and what it
    tells of them. -/
structure MarkedAll (scope : MarkScope) (migrations : List Migration) (rows rows' : List TrackingRow)
    (summary : MarkAllSummary) : Prop where
  legible : Legible rows'
  /-- What the scope covers has a completed row, with the checksum of its migration or else with the one
  that was recorded. -/
  covered : ∀ id, scope.Covers migrations rows id → ∃ row ∈ rows', row.id = some id.text ∧
    row.status = some completedStatus ∧ row.failureReason = none ∧
    (∀ m ∈ migrations, m.id = id → row.checksum = some m.checksum) ∧
    (id ∉ idsOf migrations → ∀ old ∈ rows, old.id = some id.text → row.checksum = old.checksum)
  others : ∀ row, (∀ id, row.id = some id.text → ¬scope.Covers migrations rows id) →
    (row ∈ rows' ↔ row ∈ rows)
  tallies : summary.Tallies scope migrations rows
  marked : summary.marked =
    {id | stateIn rows id ≠ .completed ∧ stateIn rows' id = .completed}.ncard

/-- On a workable table and with no failing call, marking everything executes nothing, completes the rows
    of what its scope covers, with the checksum of the migration or else the one recorded, leaves every
    other row as it is, and counts what there was (`MarkedAll`). -/
theorem mark_all_settles (r : Runner) (scope : MarkScope) (consent : Consent) (w : World)
    (migrations : List Migration) (given : consent.isGiven = true)
    (listed : r.source.list = .ok migrations) (workable : Workable r.tracker w.database)
    (calm : w.faults = []) :
    let after := w.run (r.markAllCompleted scope consent)
    let rows := w.database.trackingRows r.tracker.table
    let rows' := after.2.database.trackingRows r.tracker.table
    ∃ summary es, after.1 = .ok summary ∧ after.2.events = w.events ++ es ∧ executionsIn es = [] ∧
      MarkedAll scope migrations rows rows' summary := by
  intro after rows rows'
  obtain ⟨result, w', done, marks, -, settled, -, whole⟩ :=
    Runner.markAllCompleted_ends scope given listed workable
  obtain ⟨n, es, leads, quiet⟩ := World.leadsTo_of_asks
    (Runner.markAllCompleted_asks scope (admitsSettling_quiet r.tracker) given) w
  obtain ⟨cs, candidates, rfl, rfl⟩ := whole calm
  have ends : after.1 = .ok (MarkAllSummary.of scope cs) := congrArg Prod.fst marks
  have same : w'.database.trackingRows r.tracker.table = rows' :=
    congrArg (fun result => result.2.database.trackingRows r.tracker.table) marks.symm
  replace settled : Settled (checksumOf? migrations) (scope.Covers migrations rows) rows rows' :=
    (same ▸ settled).congr fun id => candidates.mem_select.symm
  have distinct := (Source.list_ascending listed).distinct
  refine ⟨_, es, ends, leads.events, quiet, settled.legible, fun id covered => ?_,
    fun row other => settled.mem_iff workable.legible other, candidates.tallies scope, ?_⟩
  · obtain ⟨row, inside, own, completed, cleared, checksum⟩ := settled.mem_chosen covered
    refine ⟨row, inside, own, completed, cleared, ?_, fun orphan old known same => ?_⟩
    · rintro m source rfl
      rw [checksum, checksumOf?_source distinct source, Option.some_or]
    · rw [checksum, checksumOf?_orphan orphan, Option.none_or, rowOf,
        workable.legible.find?_iff.mpr ⟨known, same⟩, Option.getD_some]
  · rw [MarkAllSummary.marked_of, ← List.length_map MarkCandidate.id]
    refine (ncard_eq_length (candidates.distinct_select scope) fun id => ?_).symm
    rw [candidates.mem_select, settled.completed_iff]

open Sample

/-- Of a failed migration, a migration without a row, a failed record and one in progress that belong
    to no migration, all but the last are marked. -/
theorem mark_all_settles_failed :
    let failed : TrackingRow := (Stage.failed (.ofMicros 0) (.ofMicros 5) "no space").row first.id
    let lost : TrackingRow :=
      ⟨some "008", some "failed", some (.finite 6), some (.finite 7), some "c8", some "no space"⟩
    let busy : TrackingRow := (Stage.inProgress (.ofMicros 8)).row ⟨"009", by decide⟩
    let db : Database := .holding ⟨true, [failed, lost, busy]⟩
    let r : Runner := ⟨.registry [first, second], ⟨.standard⟩⟩
    let w := World.ticking db
    let after := w.run (r.markAllCompleted .includeFailed .ofForce)
    let rows' := after.2.database.trackingRows r.tracker.table
    (Consent.ofForce.isGiven = true ∧ r.source.list = .ok [first, second] ∧
      Workable r.tracker w.database ∧ w.faults = []) ∧
    (∃ row ∈ rows', row.id = some "001" ∧ row.status = some completedStatus ∧
      row.failureReason = none ∧ row.checksum = some first.checksum) ∧
    (∃ row ∈ rows', row.id = some "002" ∧ row.status = some completedStatus ∧
      row.checksum = some second.checksum) ∧
    (∃ row ∈ rows', row.id = some "008" ∧ row.status = some completedStatus ∧
      row.checksum = some "c8") ∧
    busy ∈ rows' := by
  intro failed lost busy db r w after rows'
  have listed : r.source.list = .ok [first, second] := inOrder_of_ascending (by decide)
  have legible : Legible [failed, lost, busy] := by
    refine ⟨fun row inside => ?_, by decide⟩
    rw [List.mem_cons, List.mem_cons, List.mem_singleton] at inside
    rcases inside with rfl | rfl | rfl
    · exact ⟨_, Stage.decode_row ..⟩
    · exact ⟨⟨⟨"008", by decide⟩, .failed, ⟨0, 6000⟩, some ⟨0, 7000⟩, some "c8", some "no space"⟩,
        by decide +kernel⟩
    · exact ⟨_, Stage.decode_row ..⟩
  have workable : Workable r.tracker w.database := .of_stores (Database.Stores.holding _) legible
  have rows : w.database.trackingRows r.tracker.table = [failed, lost, busy] :=
    (Database.Stores.holding _).trackingRows_eq
  obtain ⟨summary, es, -, -, -, ⟨-, marks, stays, -, -⟩⟩ :=
    mark_all_settles r .includeFailed .ofForce w [first, second] rfl listed workable rfl
  rw [rows] at marks stays
  refine ⟨⟨rfl, listed, workable, rfl⟩, ?_, ?_, ?_, ?_⟩
  · obtain ⟨row, inside, own, completed, cleared, checksum, -⟩ := marks first.id (.inr (.inl ⟨rfl, rfl⟩))
    exact ⟨row, inside, own, completed, cleared, checksum first List.mem_cons_self rfl⟩
  · obtain ⟨row, inside, own, completed, -, checksum, -⟩ := marks second.id (.inl ⟨rfl, by decide⟩)
    exact ⟨row, inside, own, completed, checksum second (by simp) rfl⟩
  · obtain ⟨row, inside, own, completed, -, -, checksum⟩ :=
      marks ⟨"008", by decide⟩ (.inr (.inl ⟨rfl, rfl⟩))
    exact ⟨row, inside, own, completed, checksum (by decide) lost (by simp) rfl⟩
  · refine (stays busy fun id own => ?_).mpr (by simp)
    obtain rfl : ⟨"009", by decide⟩ = id := MigrationId.some_text_injective own
    have state : stateIn [failed, lost, busy] ⟨"009", by decide⟩ = .inProgress := rfl
    rintro (⟨pending, -⟩ | ⟨stuck, -⟩ | ⟨-, included⟩)
    · cases state.symm.trans pending
    · cases state.symm.trans stuck
    · cases included

end SchemaMigration
