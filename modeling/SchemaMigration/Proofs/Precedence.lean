import SchemaMigration.Proofs.Views

/-! # What bars a run

A run looks at the source and at the table before it applies anything, and what it finds there can bar it
(`Barred`). Of several findings the first counts, in a fixed order: the source cannot list its
migrations, a row is no record, a migration was begun and not completed, the target is unknown, a
definition has changed. They are told here by the rows as they are stored. Ids need not be distinct; of
several rows of one migration, the last one counts.
-/

namespace SchemaMigration

open World

def lastRow? (rows : List TrackingRow) (id : MigrationId) : Option TrackingRow :=
  (rows.filter (·.hasId id.text)).getLast?

/-- A migration is completed with another checksum than its current one. -/
def Migration.ChangedFrom (m : Migration) (rows : List TrackingRow) (checksum : String) : Prop :=
  ∃ row, lastRow? rows m.id = some row ∧ row.status = some completedStatus ∧
    row.checksum = some checksum ∧ checksum ≠ m.checksum

/-- What bars a run, each finding only where there is none before it in the order. -/
inductive Barred (s : Source) (o : RunOptions) (rows : List TrackingRow) : EngineError → Prop
  | unlisted (fault : DiscoveryError) (fails : s.list = .error fault) :
      Barred s o rows (.discovery fault)
  | corrupt (before : List TrackingRow) (row : TrackingRow) (after : List TrackingRow)
      (fault : RecordFault) (lists : ∃ migrations, s.list = .ok migrations)
      (sorted : rows.mergeSort TrackingRow.idNotAfter = before ++ row :: after)
      (readable : ∀ earlier ∈ before, ∃ r, earlier.decode = .ok r)
      (unreadable : row.decode = .error fault) :
      Barred s o rows (.corruptRecord (row.id.getD "") fault.message)
  | dirty (first : TrackingRow) (rest : List TrackingRow) (id : MigrationId) (ids : List MigrationId)
      (lists : ∃ migrations, s.list = .ok migrations) (readable : ∀ row ∈ rows, ∃ r, row.decode = .ok r)
      (unforced : o.force = false)
      (sorted : (rows.mergeSort TrackingRow.idNotAfter).filter (·.state.isDirty) = first :: rest)
      (own : first.id = some id.text)
      (told : (first :: rest).map TrackingRow.id = ids.map fun id => some id.text) :
      Barred s o rows (.dirtyState id first.state ids)
  | astray (id : MigrationId) (migrations : List Migration) (listed : s.list = .ok migrations)
      (readable : ∀ row ∈ rows, ∃ r, row.decode = .ok r)
      (clean : o.force = true ∨ ∀ row ∈ rows, row.state.isDirty = false)
      (target : o.target = .upTo id) (unknown : id ∉ idsOf migrations) :
      Barred s o rows (.notFound id.text)
  | changed (before : List Migration) (m : Migration) (after : List Migration) (checksum : String)
      (listed : s.list = .ok (before ++ m :: after))
      (readable : ∀ row ∈ rows, ∃ r, row.decode = .ok r)
      (clean : o.force = true ∨ ∀ row ∈ rows, row.state.isDirty = false)
      (aimed : ∀ id, o.target = .upTo id → id ∈ idsOf (before ++ m :: after))
      (strict : o.strictChecksums = true)
      (unchanged : ∀ earlier ∈ before, ∀ c, ¬earlier.ChangedFrom rows c)
      (differs : m.ChangedFrom rows checksum) :
      Barred s o rows (.checksumMismatch m.id checksum m.checksum)

/-- Nothing bars a run: none of the findings of `Barred` is there. -/
structure Unbarred (s : Source) (o : RunOptions) (rows : List TrackingRow)
    (migrations : List Migration) : Prop where
  listed : s.list = .ok migrations
  readable : ∀ row ∈ rows, ∃ r, row.decode = .ok r
  clean : o.force = true ∨ ∀ row ∈ rows, row.state.isDirty = false
  aimed : ∀ id, o.target = .upTo id → id ∈ idsOf migrations
  unchanged : o.strictChecksums = true → ∀ m ∈ migrations, ∀ c, ¬m.ChangedFrom rows c

theorem mapM_eq_error {α β ε : Type} {f : α → Except ε β} {as : List α} {e : ε} :
    as.mapM f = .error e ↔ ∃ before a after, as = before ++ a :: after ∧
      (∀ b ∈ before, ∃ c, f b = .ok c) ∧ f a = .error e := by
  constructor
  · intro fails
    induction as with
    | nil => cases fails
    | cons a rest ih =>
        rw [List.mapM_cons] at fails
        cases first : f a with
        | error e' =>
            simp only [first, bind, Except.bind, Except.error.injEq] at fails
            exact ⟨[], a, rest, rfl, fun b inside => (List.not_mem_nil inside).elim, fails ▸ first⟩
        | ok c =>
            cases others : rest.mapM f with
            | ok cs => simp only [first, others, bind, Except.bind, pure, Except.pure, reduceCtorEq] at fails
            | error e' =>
                simp only [first, others, bind, Except.bind, Except.error.injEq] at fails
                obtain ⟨before, b, after, rfl, carried, stops⟩ := ih (fails ▸ others)
                exact ⟨a :: before, b, after, rfl, List.forall_mem_cons.mpr ⟨⟨c, first⟩, carried⟩, stops⟩
  · rintro ⟨before, a, after, rfl, carried, stops⟩
    induction before with
    | nil =>
        rw [List.nil_append, List.mapM_cons, stops]
        rfl
    | cons b before ih =>
        obtain ⟨⟨c, first⟩, carried⟩ := List.forall_mem_cons.mp carried
        rw [List.cons_append, List.mapM_cons, first, ih carried]
        rfl

namespace Tracker

theorem decodeRow_eq_error {row : TrackingRow} {e : EngineError} :
    decodeRow row = .error e ↔ ∃ fault, row.decode = .error fault ∧
      e = .corruptRecord (row.id.getD "") fault.message := by
  unfold decodeRow
  cases row.decode with
  | error fault => simp [Except.mapError, eq_comm]
  | ok r => simp [Except.mapError]

theorem decodeRow_eq_ok {row : TrackingRow} {r : MigrationRecord} :
    decodeRow row = .ok r ↔ row.decode = .ok r := by
  refine ⟨decode_of_decodeRow, fun decoded => ?_⟩
  rw [decodeRow, decoded]
  rfl

end Tracker

section
variable {o : RunOptions} {rows : List TrackingRow} {migrations : List Migration}
variable {records : List MigrationRecord} {e : EngineError}
variable (decoded : (rows.mergeSort TrackingRow.idNotAfter).mapM Tracker.decodeRow = .ok records)

include decoded in
theorem dirty_records :
    List.Forall₂ (fun row r => Tracker.decodeRow row = .ok r)
      ((rows.mergeSort TrackingRow.idNotAfter).filter (·.state.isDirty))
      (records.filter (·.state.isDirty)) := by
  refine List.rel_filter ?_ (forall₂_of_mapM_ok decoded)
  intro row r decodes
  exact iff_of_eq (congrArg (·.isDirty = true) (Tracker.holds_of_decodeRow decodes).state_eq)

include decoded in
theorem Runner.dirtyObjection?_eq_some {force : Bool} :
    dirtyObjection? force records = some e ↔ force = false ∧ ∃ first rest id ids,
      (rows.mergeSort TrackingRow.idNotAfter).filter (·.state.isDirty) = first :: rest ∧
      first.id = some id.text ∧
      (first :: rest).map TrackingRow.id = ids.map (fun id => some id.text) ∧
      e = .dirtyState id first.state ids := by
  have pairs := dirty_records decoded
  have ids_of {part : List TrackingRow} {found : List MigrationRecord}
      (pairs : List.Forall₂ (fun row r => Tracker.decodeRow row = .ok r) part found) :
      part.map TrackingRow.id = (found.map MigrationRecord.id).map fun id => some id.text := by
    induction pairs with
    | nil => rfl
    | cons first _ ih =>
        rw [List.map_cons, (Tracker.holds_of_decodeRow first).id, ih]
        rfl
  unfold dirtyObjection?
  generalize (rows.mergeSort TrackingRow.idNotAfter).filter (·.state.isDirty) = dirty at pairs ⊢
  generalize records.filter (·.state.isDirty) = found at pairs ⊢
  cases pairs with
  | nil => simp
  | @cons row r part found first others =>
      have holds := Tracker.holds_of_decodeRow first
      have ids := ids_of (.cons first others)
      cases force with
      | true => simp
      | false =>
          constructor
          · intro same
            obtain rfl := Option.some.inj same
            refine ⟨rfl, row, part, r.id, _, rfl, holds.id, ids, ?_⟩
            rw [holds.state_eq]
          · rintro ⟨-, _, _, id, other, ⟨rfl, rfl⟩, own, told, rfl⟩
            have same_id : r.id = id := MigrationId.some_text_injective (holds.id.symm.trans own)
            have same_ids : (r :: found).map MigrationRecord.id = other :=
              List.map_injective_iff.mpr MigrationId.some_text_injective (ids.symm.trans told)
            rw [← same_id, ← same_ids, holds.state_eq]
            rfl

theorem Runner.targetObjection?_eq_some {target : RunTarget} :
    targetObjection? migrations target = some e ↔
      ∃ id, target = .upTo id ∧ id ∉ idsOf migrations ∧ e = .notFound id.text := by
  cases target with
  | all | steps => simp [targetObjection?]
  | upTo id =>
      have known : migrations.any (fun m => decide (m.id = id)) = true ↔ id ∈ idsOf migrations := by
        simp [idsOf]
      simp only [targetObjection?, known, RunTarget.upTo.injEq, exists_eq_left']
      by_cases inside : id ∈ idsOf migrations <;> simp [inside, eq_comm]

include decoded in
/-- The record of a migration is that of its last row. -/
theorem recordOf?_lastRow (id : MigrationId) :
    (lastRow? rows id = none ∧ recordOf? records id = none) ∨
    ∃ row r, lastRow? rows id = some row ∧ recordOf? records id = some r ∧ row.Holds r := by
  have pairs := List.forall₂_reverse_iff.mpr (records_of_id decoded id)
  rw [recordOf?_eq_getLast?, lastRow?, ← List.head?_reverse, ← List.head?_reverse]
  generalize (rows.filter (·.hasId id.text)).reverse = part at pairs ⊢
  generalize (records.filter fun r => r.id = id).reverse = found at pairs ⊢
  cases pairs with
  | nil => exact .inl ⟨rfl, rfl⟩
  | cons last _ => exact .inr ⟨_, _, rfl, rfl, Tracker.holds_of_decodeRow last⟩

include decoded in
theorem drift?_eq_changed {m : Migration} {d : ChecksumMismatch} :
    drift? records m = some d ↔ ∃ c, m.ChangedFrom rows c ∧ d = ⟨m.id, c, m.checksum⟩ := by
  unfold Migration.ChangedFrom
  rw [drift?_found]
  rcases recordOf?_lastRow decoded m.id with ⟨missing, unknown⟩ | ⟨row, r, last, known, holds⟩
  · simp [missing, unknown]
  · have completed : r.status = .completed ↔ row.status = some completedStatus := by
      rw [holds.status]
      cases r.status <;> simp [MigrationStatus.text, completedStatus]
    simp only [last, known, Option.some.injEq, exists_eq_left', holds.checksum, completed, and_assoc,
      exists_and_left]

include decoded in
theorem drift?_eq_none {m : Migration} : drift? records m = none ↔ ∀ c, ¬m.ChangedFrom rows c := by
  rw [Option.eq_none_iff_forall_not_mem]
  simp only [Option.mem_def, drift?_eq_changed decoded]
  constructor
  · intro none_found c changed
    exact none_found _ ⟨c, changed, rfl⟩
  · rintro unchanged _ ⟨c, changed, -⟩
    exact unchanged c changed

include decoded in
theorem Runner.driftObjection?_eq_some {strict : Bool} :
    driftObjection? strict records migrations = some e ↔ strict = true ∧ ∃ before m after c,
      migrations = before ++ m :: after ∧ (∀ earlier ∈ before, ∀ c, ¬earlier.ChangedFrom rows c) ∧
      m.ChangedFrom rows c ∧ e = .checksumMismatch m.id c m.checksum := by
  cases strict with
  | false => simp [driftObjection?]
  | true =>
      rw [driftObjection?, if_pos rfl, Option.map_eq_some_iff]
      simp only [List.findSome?_eq_some_iff, drift?_eq_changed decoded, drift?_eq_none decoded,
        true_and]
      constructor
      · rintro ⟨_, ⟨before, m, after, rfl, ⟨c, changed, rfl⟩, first⟩, rfl⟩
        exact ⟨before, m, after, c, rfl, first, changed, rfl⟩
      · rintro ⟨before, m, after, c, rfl, first, changed, rfl⟩
        exact ⟨_, ⟨before, m, after, rfl, ⟨c, changed, rfl⟩, first⟩, rfl⟩

theorem readable_iff (rows : List TrackingRow) : (∀ row ∈ rows, ∃ r, row.decode = .ok r) ↔
    ∃ records, (rows.mergeSort TrackingRow.idNotAfter).mapM Tracker.decodeRow = .ok records := by
  constructor
  · intro readable
    exact Tracker.decoded_of_decodes fun row inside => readable row (List.mem_mergeSort.mp inside)
  · rintro ⟨records, decoded⟩ row inside
    obtain ⟨r, -, decodes⟩ := (mem_of_mapM_ok decoded).2 row (List.mem_mergeSort.mpr inside)
    exact ⟨r, Tracker.decode_of_decodeRow decodes⟩

namespace Runner

include decoded in
theorem dirtyObjection?_eq_none_rows {force : Bool} :
    dirtyObjection? force records = none ↔
      force = true ∨ ∀ row ∈ rows, row.state.isDirty = false := by
  have recorded := Tracker.recorded_of_list decoded
  rw [dirtyObjection?_eq_none]
  refine or_congr_right ⟨fun clean row inside => ?_, fun clean r inside => ?_⟩
  · obtain ⟨r, known, holds⟩ := recorded.of_row row inside
    rw [holds.state_eq, clean r known]
  · obtain ⟨row, present, holds⟩ := recorded.of_record r inside
    rw [← holds.state_eq, clean row present]

theorem targetObjection?_eq_none {target : RunTarget} :
    targetObjection? migrations target = none ↔ ∀ id, target = .upTo id → id ∈ idsOf migrations := by
  rw [Option.eq_none_iff_forall_not_mem]
  simp only [Option.mem_def, targetObjection?_eq_some]
  constructor
  · intro none_stands id aimed
    by_contra unknown
    exact none_stands _ ⟨id, aimed, unknown, rfl⟩
  · rintro known _ ⟨id, aimed, unknown, -⟩
    exact unknown (known id aimed)

include decoded in
theorem driftObjection?_eq_none {strict : Bool} :
    driftObjection? strict records migrations = none ↔
      (strict = true → ∀ m ∈ migrations, ∀ c, ¬m.ChangedFrom rows c) := by
  cases strict with
  | false => simp [driftObjection?]
  | true => simp [driftObjection?, drift?_eq_none decoded]

variable {r : Runner} {db : Database}

theorem prospect_unlisted {fault : DiscoveryError} (fails : r.source.list = .error fault) :
    r.prospect o db = .error (.discovery fault) := by
  rw [prospect, fails]
  rfl

variable (reserved : db.Reserved r.tracker.table)
include reserved

theorem prospect_corrupt (listed : r.source.list = .ok migrations)
    (corrupt : ((db.trackingRows r.tracker.table).mergeSort TrackingRow.idNotAfter).mapM
      Tracker.decodeRow = .error e) : r.prospect o db = .error e := by
  rw [prospect, listed, reserved.knownIn_eq, corrupt]
  rfl

omit decoded in
theorem prospect_readable (listed : r.source.list = .ok migrations)
    (decoded : ((db.trackingRows r.tracker.table).mergeSort TrackingRow.idNotAfter).mapM
      Tracker.decodeRow = .ok records) :
    r.prospect o db =
      (refusal (objection? o migrations records)).map fun _ => (migrations, records) :=
  prospect_known listed (reserved.knownIn_eq.trans decoded)

omit reserved in
/-- The `objection?` that stands against a run on records bars it. -/
theorem barred_of_objection {rows : List TrackingRow} (listed : r.source.list = .ok migrations)
    (decoded : (rows.mergeSort TrackingRow.idNotAfter).mapM Tracker.decodeRow = .ok records)
    (objects : objection? o migrations records = some e) : Barred r.source o rows e := by
  have readable := (readable_iff rows).mpr ⟨records, decoded⟩
  rcases Option.or_eq_some_iff.mp objects with dirty | ⟨clean, later⟩
  · obtain ⟨unforced, first, rest, id, ids, sorted, own, told, rfl⟩ :=
      (dirtyObjection?_eq_some decoded).mp dirty
    exact .dirty first rest id ids ⟨migrations, listed⟩ readable unforced sorted own told
  rw [dirtyObjection?_eq_none_rows decoded] at clean
  rcases Option.or_eq_some_iff.mp later with astray | ⟨aimed, changed⟩
  · obtain ⟨id, target, unknown, rfl⟩ := targetObjection?_eq_some.mp astray
    exact .astray id migrations listed readable clean target unknown
  rw [targetObjection?_eq_none] at aimed
  obtain ⟨strict, before, m, after, c, rfl, unchanged, differs, rfl⟩ :=
    (driftObjection?_eq_some decoded).mp changed
  exact .changed before m after c listed readable clean aimed strict unchanged differs

theorem barred_of_prospect (found : r.prospect o db = .error e) :
    Barred r.source o (db.trackingRows r.tracker.table) e := by
  cases listed : r.source.list with
  | error fault =>
      rw [prospect_unlisted listed] at found
      cases found
      exact .unlisted fault listed
  | ok migrations =>
  cases decoded : ((db.trackingRows r.tracker.table).mergeSort TrackingRow.idNotAfter).mapM
      Tracker.decodeRow with
  | error e' =>
      rw [prospect_corrupt reserved listed decoded] at found
      cases found
      obtain ⟨before, row, after, sorted, earlier, stops⟩ := mapM_eq_error.mp decoded
      obtain ⟨fault, unreadable, rfl⟩ := Tracker.decodeRow_eq_error.mp stops
      refine .corrupt before row after fault ⟨migrations, listed⟩ sorted ?_ unreadable
      simpa only [Tracker.decodeRow_eq_ok] using earlier
  | ok records =>
      rw [prospect_readable reserved listed decoded] at found
      cases objects : objection? o migrations records with
      | none =>
          rw [objects] at found
          cases found
      | some e' =>
          rw [objects] at found
          cases found
          exact barred_of_objection listed decoded objects

theorem prospect_objected (listed : r.source.list = .ok migrations)
    (readable : ∀ row ∈ db.trackingRows r.tracker.table, ∃ r, row.decode = .ok r)
    (stands : ∀ records, ((db.trackingRows r.tracker.table).mergeSort
      TrackingRow.idNotAfter).mapM Tracker.decodeRow = .ok records →
        objection? o migrations records = some e) : r.prospect o db = .error e := by
  obtain ⟨records, decoded⟩ := (readable_iff _).mp readable
  rw [prospect_readable reserved listed decoded, stands records decoded]
  rfl

theorem prospect_barred (barred : Barred r.source o (db.trackingRows r.tracker.table) e) :
    r.prospect o db = .error e := by
  cases barred with
  | unlisted fault fails => exact prospect_unlisted fails
  | corrupt before row after fault lists sorted readable unreadable =>
      obtain ⟨migrations, listed⟩ := lists
      refine prospect_corrupt reserved listed (mapM_eq_error.mpr ⟨before, row, after, sorted, ?_, ?_⟩)
      · simpa only [Tracker.decodeRow_eq_ok] using readable
      · exact Tracker.decodeRow_eq_error.mpr ⟨fault, unreadable, rfl⟩
  | dirty first rest id ids lists readable unforced sorted own told =>
      obtain ⟨migrations, listed⟩ := lists
      refine prospect_objected reserved listed readable fun records decoded =>
        Option.or_eq_some_iff.mpr (.inl ?_)
      exact (dirtyObjection?_eq_some decoded).mpr
        ⟨unforced, first, rest, id, ids, sorted, own, told, rfl⟩
  | astray id migrations listed readable clean target unknown =>
      refine prospect_objected reserved listed readable fun records decoded => ?_
      rw [objection?, (dirtyObjection?_eq_none_rows decoded).mpr clean, Option.none_or]
      exact Option.or_eq_some_iff.mpr
        (.inl (targetObjection?_eq_some.mpr ⟨id, target, unknown, rfl⟩))
  | changed before m after checksum listed readable clean aimed strict unchanged differs =>
      refine prospect_objected reserved listed readable fun records decoded => ?_
      rw [objection?, (dirtyObjection?_eq_none_rows decoded).mpr clean, Option.none_or,
        targetObjection?_eq_none.mpr aimed, Option.none_or]
      exact (driftObjection?_eq_some decoded).mpr
        ⟨strict, before, m, after, checksum, rfl, unchanged, differs, rfl⟩

theorem prospect_eq_error :
    r.prospect o db = .error e ↔ Barred r.source o (db.trackingRows r.tracker.table) e :=
  ⟨barred_of_prospect reserved, prospect_barred reserved⟩

theorem prospect_eq_unbarred : (∃ records, r.prospect o db = .ok (migrations, records)) ↔
    Unbarred r.source o (db.trackingRows r.tracker.table) migrations := by
  constructor
  · rintro ⟨records, found⟩
    obtain ⟨listed, known, passes⟩ := prospect_eq_ok.mp found
    rw [reserved.knownIn_eq] at known
    rw [objection?, Option.or_eq_none_iff, Option.or_eq_none_iff, dirtyObjection?_eq_none_rows known,
      targetObjection?_eq_none, driftObjection?_eq_none known] at passes
    obtain ⟨clean, aimed, unchanged⟩ := passes
    exact ⟨listed, (readable_iff _).mpr ⟨records, known⟩, clean, aimed, unchanged⟩
  · intro h
    obtain ⟨records, decoded⟩ := (readable_iff _).mp h.readable
    refine ⟨records, prospect_eq_ok.mpr ⟨h.listed, reserved.knownIn_eq.trans decoded, ?_⟩⟩
    rw [objection?, Option.or_eq_none_iff, Option.or_eq_none_iff,
      dirtyObjection?_eq_none_rows decoded, targetObjection?_eq_none, driftObjection?_eq_none decoded]
    exact ⟨h.clean, h.aimed, h.unchanged⟩

end Runner

end

namespace Runner

variable {r : Runner} {o : RunOptions} {w : World} {migrations : List Migration} {e : EngineError}

theorem prepare_makes (listed : r.source.list = .ok migrations)
    (makeable : w.database.CanMake r.tracker.table) (calm : w.faults = []) :
    (w.run (r.prepare o)).2.database.find? r.tracker.table.relation =
      (w.database.find? r.tracker.table.relation).or (some (.tracking .empty)) := by
  obtain ⟨es, w₁, makes, found, -⟩ := Tracker.ensure_makes makeable calm
  have looks := admitsLooking_read r.tracker
  have reads (records : List MigrationRecord) : Engine.Asks Request.IsRead (do
      check o migrations records
      return (migrations, records)) :=
    (check_asks looks.note o migrations records).bind fun _ => Engine.asks_pure _
  have same := World.database_of_asks ((looks.records .all).bind reads) w₁
  rw [prepare, discover, listed, World.run_bind_ok (a := migrations) rfl, World.run_bind_ok makes,
    ← found, ← same]
  rfl

theorem dry_run_barred (dry : o.dryRun = true) (calm : w.faults = [])
    (found : r.prospect o w.database = .error e) :
    ∃ w', w.run (r.run o) = (.error e, w') ∧ w'.database = w.database ∧
      ∃ es, w'.events = w.events ++ es ∧ executionsIn es = [] := by
  obtain ⟨es, ends, quiet⟩ := dry_run_ends (r := r) dry calm
  rw [found] at ends
  exact ⟨_, ends, rfl, es, rfl, quiet⟩

theorem live_run_barred (live : o.dryRun = false) (makeable : w.database.CanMake r.tracker.table)
    (calm : w.faults = []) (found : r.prospect o w.database = .error e) :
    ∃ w', w.run (r.run o) = (.error e, w') ∧ w.Idles r.tracker.table w' ∧
      ((∃ fault, r.source.list = .error fault) → w'.database = w.database) ∧
      ((∃ migrations, r.source.list = .ok migrations) →
        w'.database.find? r.tracker.table.relation =
          (w.database.find? r.tracker.table.relation).or (some (.tracking .empty))) := by
  have foretold := prepare_foretold (r := r) o makeable calm
  rw [found] at foretold
  obtain ⟨result, w', prepares, idles, -⟩ := prepare_ends r o w
  rw [prepares] at foretold
  obtain rfl : result = .error e := foretold
  refine ⟨w', ?_, idles, ?_, ?_⟩
  · rw [run_eq live, World.run_bind_error prepares]
  · rintro ⟨fault, fails⟩
    have stops : w.run (r.prepare o) = (.error (.discovery fault), w) := by
      rw [prepare, discover, fails]
      rfl
    rw [prepares] at stops
    rw [(Prod.mk.inj stops).2]
  · rintro ⟨migrations, listed⟩
    have makes := prepare_makes (o := o) listed makeable calm
    rwa [prepares] at makes

theorem run_unbarred (makeable : o.dryRun = false → w.database.CanMake r.tracker.table)
    (alone : r.source.LeavesAlone r.tracker.table) (calm : w.faults = [])
    {prepared : List Migration × List MigrationRecord}
    (found : r.prospect o w.database = .ok prepared) :
    (∃ report, (w.run (r.run o)).1 = .ok report) ∨
      ∃ failure, (w.run (r.run o)).1 = .error (.execution failure) := by
  cases dry : o.dryRun with
  | true =>
      obtain ⟨es, ends, -⟩ := dry_run_ends (r := r) dry calm
      rw [found] at ends
      exact .inl ⟨_, congrArg Prod.fst ends⟩
  | false =>
      have foretold := prepare_foretold (r := r) o (makeable dry) calm
      rw [found] at foretold
      obtain ⟨-, result, new, n, es, constrained, w', runs, course, -⟩ :=
        run_undisturbed dry alone calm foretold
      rw [runs]
      generalize executionsIn es = exs at course
      cases course with
      | whole => exact .inl ⟨_, rfl⟩
      | halted before m after e parts => exact .inr ⟨_, rfl⟩

end Runner

/-- With no failing call, a run ends with the first finding that bars it (`Barred`), and then nothing was
    executed and no row has changed; at most an empty table was made where there was none, and not by a
    dry run nor where the source does not list its migrations. Where nothing bars it, a run reports or
    ends at an action that fails. -/
theorem run_barred (r : Runner) (o : RunOptions) (w : World)
    (reserved : w.database.Reserved r.tracker.table)
    (makeable : o.dryRun = false → w.database.CanMake r.tracker.table)
    (alone : r.source.LeavesAlone r.tracker.table) (calm : w.faults = []) :
    let rows (w : World) := w.database.trackingRows r.tracker.table
    let table? (w : World) := w.database.find? r.tracker.table.relation
    let ran := w.run (r.run o)
    (∀ e, Barred r.source o (rows w) e →
      ran.1 = .error e ∧ (∃ es, ran.2.events = w.events ++ es ∧ executionsIn es = []) ∧
      rows ran.2 = rows w ∧
      (o.dryRun = true ∨ (∃ fault, r.source.list = .error fault) → ran.2.database = w.database) ∧
      (o.dryRun = false → (∃ migrations, r.source.list = .ok migrations) →
        table? ran.2 = (table? w).or (some (.tracking .empty)))) ∧
    (∀ migrations, Unbarred r.source o (rows w) migrations →
      (∃ report, ran.1 = .ok report) ∨ ∃ failure, ran.1 = .error (.execution failure)) ∧
    ((∃ migrations, Unbarred r.source o (rows w) migrations) ↔ ¬∃ e, Barred r.source o (rows w) e) := by
  intro rows table? ran
  refine ⟨fun e barred => ?_, fun migrations unbarred => ?_, ?_⟩
  · have found := (Runner.prospect_eq_error reserved).mpr barred
    cases dry : o.dryRun with
    | true =>
        obtain ⟨w', ends, same, quiet⟩ := Runner.dry_run_barred dry calm found
        have ran_eq : ran = _ := ends
        have kept : rows w' = rows w := by
          simp only [rows, same]
        rw [ran_eq]
        refine ⟨rfl, quiet, kept, fun _ => same, fun live => ?_⟩
        cases live
    | false =>
        obtain ⟨w', ends, idles, unlisted, listed⟩ :=
          Runner.live_run_barred dry (makeable dry) calm found
        have ran_eq : ran = _ := ends
        obtain ⟨es, leads, quiet⟩ := idles.leads
        rw [ran_eq]
        refine ⟨rfl, ⟨es, leads.events, quiet⟩, idles.rows, ?_, fun _ => listed⟩
        rintro (impossible | fails)
        · cases impossible
        · exact unlisted fails
  · obtain ⟨records, found⟩ := (Runner.prospect_eq_unbarred reserved).mpr unbarred
    exact Runner.run_unbarred makeable alone calm found
  · simp only [rows, ← Runner.prospect_eq_error reserved, ← Runner.prospect_eq_unbarred reserved]
    cases r.prospect o w.database with
    | error e => simp
    | ok prepared =>
        obtain ⟨migrations, records⟩ := prepared
        simp

open Sample

/-- A failed row and one whose status is unknown: the latter bars a run that would be refused for the
    former, and for its target. -/
theorem run_barred_corrupt :
    let failed : TrackingRow := (Stage.failed (.ofMicros 0) (.ofMicros 5) "no space").row first.id
    let odd : TrackingRow := ⟨some "002", some "paused", none, none, none, none⟩
    let db : Database := .holding ⟨false, [failed, odd]⟩
    let r : Runner := ⟨.registry [first], ⟨.standard⟩⟩
    let o : RunOptions := { target := .upTo ⟨"009", by decide⟩, strictChecksums := true }
    let w := World.ticking db
    let ran := w.run (r.run o)
    (w.database.Reserved r.tracker.table ∧ (o.dryRun = false → w.database.CanMake r.tracker.table) ∧
      r.source.LeavesAlone r.tracker.table ∧ w.faults = []) ∧
    ran.1 = .error (.corruptRecord "002" (RecordFault.unknownStatus "paused").message) ∧
    ran.2.database.trackingRows r.tracker.table = [failed, odd] := by
  intro failed odd db r o w ran
  have listed : r.source.list = .ok [first] := inOrder_of_ascending (by decide)
  have stored : w.database.Stores r.tracker.table ⟨false, [failed, odd]⟩ := Database.Stores.holding _
  have rows : w.database.trackingRows r.tracker.table = [failed, odd] := stored.trackingRows_eq
  have alone : r.source.LeavesAlone r.tracker.table :=
    Source.leavesAlone_silent listed (by decide) r.tracker.table
  have barred : Barred r.source o [failed, odd]
      (.corruptRecord "002" (RecordFault.unknownStatus "paused").message) := by
    refine .corrupt [failed] odd [] _ ⟨_, listed⟩ (List.mergeSort_of_pairwise (by decide)) ?_
      (by decide +kernel)
    intro earlier inside
    obtain rfl := List.mem_singleton.mp inside
    exact ⟨_, Stage.decode_row ..⟩
  obtain ⟨each, -⟩ := run_barred r o w (.inr ⟨_, stored⟩) (fun _ => stored.canMake) alone rfl
  obtain ⟨fails, -, kept, -⟩ := each _ (rows ▸ barred)
  exact ⟨⟨.inr ⟨_, stored⟩, fun _ => stored.canMake, alone, rfl⟩, fails, kept.trans rows⟩

end SchemaMigration
