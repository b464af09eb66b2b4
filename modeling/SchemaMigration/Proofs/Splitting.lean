import SchemaMigration.Proofs.Unwinding

/-! # Rollbacks in two parts

A rollback of some steps and another one after it do what a single rollback of as many steps does. The
second one plans anew, on what the first one has left: deleting the front of the order of completion
leaves the rest of it, and a plan is good when both of its parts are. The worlds on the way are `Alike`:
they differ in nothing but what is on record, which no operation looks at.
-/

namespace SchemaMigration

open World

namespace World

variable {w w' w'' v : World} {α β : Type}

def unrecorded (w : World) : World :=
  { w with events := [] }

/-- Two worlds differ at most in what is on record. -/
def Alike (w w' : World) : Prop :=
  w.unrecorded = w'.unrecorded

theorem Alike.refl (w : World) : w.Alike w := rfl

theorem Alike.symm (h : w.Alike w') : w'.Alike w := Eq.symm h

theorem Alike.trans (h : w.Alike w') (h' : w'.Alike w'') : w.Alike w'' := Eq.trans h h'

theorem Alike.database (h : w.Alike w') : w'.database = w.database :=
  (congrArg World.database h).symm

theorem Alike.faults (h : w.Alike w') : w'.faults = w.faults :=
  (congrArg World.faults h).symm

theorem alike_events (w : World) (es : List Event) : w.Alike { w with events := es } := rfl

theorem respond_unrecorded (r : Request) (w : World) :
    (respond r w.unrecorded).1 = (respond r w).1 ∧
      (respond r w.unrecorded).2.Alike (respond r w).2 := by
  cases r with
  | call | readClock | note => exact ⟨rfl, rfl⟩
  | perform id direction action =>
      cases action with
      | sql text =>
          simp only [respond, perform]
          split <;> exact ⟨rfl, rfl⟩
      | procedure fingerprint outcomes =>
          simp only [respond, perform, execute, unrecorded]
          split <;> exact ⟨rfl, rfl⟩

theorem respond_alike (r : Request) (alike : w.Alike w') :
    (respond r w).1 = (respond r w').1 ∧ (respond r w).2.Alike (respond r w').2 := by
  obtain ⟨answer, after⟩ := respond_unrecorded r w
  obtain ⟨answer', after'⟩ := respond_unrecorded r w'
  rw [show w.unrecorded = w'.unrecorded from alike] at answer after
  exact ⟨answer.symm.trans answer', after.symm.trans after'⟩

/-- Operations go the same way in worlds that are `Alike`. -/
theorem run_alike (x : Engine α) (alike : w.Alike w') :
    (w.run x).1 = (w'.run x).1 ∧ (w.run x).2.Alike (w'.run x).2 := by
  have any (script : Script (Except EngineError α)) (w w' : World) (alike : w.Alike w') :
      (script.run respond w).1 = (script.run respond w').1 ∧
        (script.run respond w).2.Alike (script.run respond w').2 := by
    induction script generalizing w w' with
    | done result => exact ⟨rfl, alike⟩
    | request r next ih =>
        obtain ⟨answer, after⟩ := respond_alike r alike
        simp only [Script.run, answer]
        exact ih _ _ _ after
  exact any x.run w w' alike

theorem run_alike_eq {x : Engine α} {result : Except EngineError α} (alike : w.Alike v)
    (ends : w.run x = (result, w')) : ∃ v', v.run x = (result, v') ∧ w'.Alike v' := by
  obtain ⟨same, after⟩ := run_alike x alike
  rw [ends] at same after
  exact ⟨(v.run x).2, Prod.ext same.symm rfl, after⟩

end World

variable {w w' w'' v v' : World} {t : Tracker} {plan p q : List Migration}

theorem takeBackAll_append (t : Tracker) (p q : List Migration) (rolledBack : List MigrationId) :
    Runner.takeBackAll t rolledBack (p ++ q) =
      Runner.takeBackAll t rolledBack p >>= fun done => Runner.takeBackAll t done q := by
  induction p generalizing rolledBack with
  | nil => rw [List.nil_append, Runner.takeBackAll, pure_bind]
  | cons m rest ih =>
      simp only [List.cons_append, Runner.takeBackAll_cons, ih, bind_assoc]

theorem takeBackOne_from (w : World) (t : Tracker) (m : Migration)
    (rolledBack rolledBack' : List MigrationId) :
    (∃ w', w.run (Runner.takeBackOne t rolledBack m) = (.ok (), w') ∧
      w.run (Runner.takeBackOne t rolledBack' m) = (.ok (), w')) ∨
    ∃ e e' w', w.run (Runner.takeBackOne t rolledBack m) = (.error e, w') ∧
      w.run (Runner.takeBackOne t rolledBack' m) = (.error e', w') := by
  unfold Runner.takeBackOne
  cases m.down with
  | none => exact .inr ⟨_, _, w, rfl, rfl⟩
  | some action =>
      have performs := w.run_perform m.id .down action
      simp only [run_bind_ok performs]
      cases (w.perform m.id .down action).1 with
      | error e => exact .inr ⟨_, _, _, rfl, rfl⟩
      | ok =>
          rcases ends : (w.perform m.id .down action).2.run (discard (t.remove m.id) >>= fun _ =>
            Engine.note .info ("Rolled back " ++ m.id.text)) with ⟨e | _, w'⟩
          · exact .inr ⟨e, e, w', rfl, rfl⟩
          · exact .inl ⟨w', rfl, rfl⟩

/-- Taking back succeeds or fails whatever was taken back before, and answers that with what it took
    back itself. -/
theorem takeBackAll_done {rolledBack done : List MigrationId}
    (ends : w.run (Runner.takeBackAll t rolledBack plan) = (.ok done, w'))
    (rolledBack' : List MigrationId) : done = rolledBack ++ idsOf plan ∧
      w.run (Runner.takeBackAll t rolledBack' plan) = (.ok (rolledBack' ++ idsOf plan), w') := by
  induction plan generalizing w rolledBack rolledBack' with
  | nil =>
      cases ends
      rw [idsOf, List.map_nil, List.append_nil, List.append_nil]
      exact ⟨rfl, rfl⟩
  | cons m rest ih =>
      rw [Runner.takeBackAll_cons] at ends ⊢
      obtain ⟨w₁, first, first'⟩ | ⟨e, -, w₁, fails, -⟩ :=
        takeBackOne_from w t m rolledBack rolledBack'
      · rw [run_bind_ok first] at ends
        rw [run_bind_ok first']
        have rest_done := ih ends (rolledBack' ++ [m.id])
        simpa only [idsOf, List.map_cons, List.append_assoc, List.singleton_append] using rest_done
      · rw [run_bind_error fails] at ends
        cases ends

def World.TakesBack (w : World) (t : Tracker) (plan : List Migration) (w' : World) : Prop :=
  ∃ v, w.run (Runner.takeBackAll t [] plan) = (.ok (idsOf plan), v) ∧ v.Alike w'

theorem takesBack_of_run (ends : (w.run (Runner.takeBackAll t [] plan)).1 = .ok (idsOf plan)) :
    w.TakesBack t plan (w.run (Runner.takeBackAll t [] plan)).2 :=
  ⟨_, Prod.ext ends rfl, .refl _⟩

theorem World.TakesBack.alike (h : w.TakesBack t plan w') (first : w.Alike v) (last : w'.Alike v') :
    v.TakesBack t plan v' := by
  obtain ⟨u, ends, same⟩ := h
  obtain ⟨u', ends', same'⟩ := run_alike_eq first ends
  exact ⟨u', ends', (same'.symm.trans same).trans last⟩

/-- Two plans are taken back together as they are one after the other. -/
theorem takesBack_append_iff : w.TakesBack t (p ++ q) w'' ↔
    ∃ w', w.TakesBack t p w' ∧ w'.TakesBack t q w'' := by
  unfold World.TakesBack
  rw [takeBackAll_append]
  constructor
  · rintro ⟨v, ends, same⟩
    obtain ⟨done, w', front, back⟩ := bind_ok_inv ends
    exact ⟨w', ⟨w', (takeBackAll_done front []).2, .refl w'⟩, v, (takeBackAll_done back []).2, same⟩
  · rintro ⟨w', ⟨u, front, like⟩, v, back, same⟩
    obtain ⟨v', back', like'⟩ := run_alike_eq like.symm back
    refine ⟨v', ?_, like'.symm.trans same⟩
    rw [run_bind_ok front, (takeBackAll_done back' (idsOf p)).2, idsOf, idsOf, idsOf, List.map_append]

theorem Unwound.whole {armed : Prop} {rolledBack ids : List MigrationId} {done rest : List Migration}
    {es : List Event} (h : Unwound t armed rolledBack plan done rest (.ok ids) es) : rest = [] := by
  obtain ⟨exs, ran, -, -, halts⟩ := h.executed
  cases halts
  rfl

theorem takeBackAll_deletes {constrained : Bool} {rows : List TrackingRow} {done : List MigrationId}
    (calm : w.faults = []) (stored : w.database.Stores t.table ⟨constrained, rows⟩)
    (reversible : ∀ m ∈ plan, m.isReversible = true) (alone : ∀ m ∈ plan, m.LeavesAlone t.table)
    (ends : w.run (Runner.takeBackAll t [] plan) = (.ok done, v)) :
    v.faults = [] ∧ v.database.Stores t.table ⟨constrained, rowsWithout (idsOf plan) rows⟩ := by
  obtain ⟨ended, through, rest, es, w₁, ends', unwound, stored', leads⟩ :=
    takeBackAll_ends plan stored reversible alone [] fun struck : w.faults ≠ [] => struck
  rw [ends] at ends'
  obtain ⟨rfl, rfl⟩ := Prod.mk.inj ends'
  obtain rfl : rest = [] := unwound.whole
  obtain rfl : plan = through := unwound.parts.trans (List.append_nil through)
  exact ⟨leads.faults calm, stored'⟩

theorem mapM_append_eq_ok {α β ε : Type} {f : α → Except ε β} {as bs : List α} {cs : List β} :
    (as ++ bs).mapM f = .ok cs ↔
      ∃ front back, as.mapM f = .ok front ∧ bs.mapM f = .ok back ∧ cs = front ++ back := by
  rw [List.mapM_append]
  cases as.mapM f with
  | error e => simp [bind, Except.bind]
  | ok front =>
      cases bs.mapM f with
      | error e => simp [bind, Except.bind]
      | ok back => simp [bind, Except.bind, pure, Except.pure, eq_comm]

theorem TrackingRow.id_eq_of_notBefore {a b : TrackingRow} (h : a.finishedNotBefore b = true)
    (h' : b.finishedNotBefore a = true) : a.id = b.id := by
  rw [finishedNotBefore_iff] at h h'
  have descending : finishedNotBefore.idDescending a b = true ∧
      finishedNotBefore.idDescending b a = true := by
    rcases h with later | ⟨same, ids⟩
    · rcases h' with later' | ⟨same', -⟩
      · exact (later.trans later').irrefl.elim
      · rw [same'] at later
        exact later.irrefl.elim
    · rcases h' with later' | ⟨-, ids'⟩
      · rw [same] at later'
        exact later'.irrefl.elim
      · exact ⟨ids, ids'⟩
  unfold finishedNotBefore.idDescending at descending
  cases own : a.id <;> cases own' : b.id <;> simp only [own, own'] at descending
  · rfl
  · cases descending.1
  · cases descending.2
  · rw [decide_eq_true_iff, decide_eq_true_iff] at descending
    exact congrArg some (String.le_antisymm descending.2 descending.1)

section
variable {rows : List TrackingRow} {ids : List MigrationId}
variable (completed : (completedRows rows).map TrackingRow.id = ids.map fun id => some id.text)
variable (distinct : ids.Nodup)
include completed distinct

theorem filter_completedRows (n : Nat) :
    ((completedRows rows).filter fun row => (ids.take n).all fun id => row.id ≠ some id.text) =
      (completedRows rows).drop n := by
  have front : ((completedRows rows).take n).map TrackingRow.id =
      (ids.take n).map fun id => some id.text := by
    rw [List.map_take, completed, List.map_take]
  have back : ((completedRows rows).drop n).map TrackingRow.id =
      (ids.drop n).map fun id => some id.text := by
    rw [List.map_drop, completed, List.map_drop]
  conv => lhs; rw [← List.take_append_drop n (completedRows rows)]
  rw [List.filter_append]
  have gone : ((completedRows rows).take n).filter
      (fun row => (ids.take n).all fun id => row.id ≠ some id.text) = [] := by
    rw [List.filter_eq_nil_iff]
    intro row inside kept
    have named : row.id ∈ (ids.take n).map fun id => some id.text :=
      front ▸ List.mem_map_of_mem inside
    obtain ⟨id, among, own⟩ := List.mem_map.mp named
    exact of_decide_eq_true (List.all_eq_true.mp kept id among) own.symm
  have left : ((completedRows rows).drop n).filter
      (fun row => (ids.take n).all fun id => row.id ≠ some id.text) = (completedRows rows).drop n := by
    rw [List.filter_eq_self]
    intro row inside
    have named : row.id ∈ (ids.drop n).map fun id => some id.text :=
      back ▸ List.mem_map_of_mem inside
    obtain ⟨other, later, own⟩ := List.mem_map.mp named
    rw [List.all_eq_true]
    intro id among
    refine decide_eq_true fun same => ?_
    obtain rfl : other = id := MigrationId.some_text_injective (own.trans same)
    exact List.disjoint_take_drop distinct (Nat.le_refl n) among later
  rw [gone, left, List.nil_append]

/-- Without the rows of the first ids in the order of completion, the other ones are left, in their
    order. -/
theorem completedRows_without (n : Nat) :
    completedRows (rowsWithout (ids.take n) rows) = (completedRows rows).drop n := by
  have unique : ((completedRows rows).map TrackingRow.id).Nodup :=
    completed ▸ distinct.map MigrationId.some_text_injective
  have perm : (completedRows (rowsWithout (ids.take n) rows)).Perm ((completedRows rows).drop n) := by
    rw [← filter_completedRows completed distinct n, completedRows, rowsWithout,
      List.filter_comm]
    exact (List.mergeSort_perm _ _).trans ((List.mergeSort_perm _ _).filter _).symm
  -- No two completed rows have one id, so that the order of completion leaves no choice.
  refine perm.eq_of_pairwise ?_ (completedRows_sorted _) (completedRows_sorted rows).drop
  intro a b inside inside' before after
  exact List.inj_on_of_nodup_map unique (List.mem_of_mem_drop (perm.subset inside))
    (List.mem_of_mem_drop inside') (TrackingRow.id_eq_of_notBefore before after)

end

/-- What a rollback of some steps goes by: the source and the table, in a world where no call fails, with
    the ids of the completed rows in the order of completion. -/
structure Recedes (r : Runner) (migrations : List Migration) (ids : List MigrationId) (w : World) :
    Prop where
  listed : r.source.list = .ok migrations
  alone : r.source.LeavesAlone r.tracker.table
  calm : w.faults = []
  reserved : w.database.Reserved r.tracker.table
  decodes : ∀ row ∈ w.database.trackingRows r.tracker.table, ∃ record, row.decode = .ok record
  completed : (completedRows (w.database.trackingRows r.tracker.table)).map TrackingRow.id =
    ids.map fun id => some id.text
  distinct : ids.Nodup

namespace Recedes

variable {r : Runner} {migrations : List Migration} {ids : List MigrationId}
variable (h : Recedes r migrations ids w)
include h

theorem plans (n : Nat) : w.Reads (r.planRollback (.steps n))
    ((ids.take n).mapM (Runner.findReversible migrations)) := by
  obtain ⟨records, decoded⟩ := Tracker.decoded_of_decodes fun row inside =>
    h.decodes row (mem_completedRows.mp inside).1
  have same : records.map MigrationRecord.id = ids :=
    List.map_injective_iff.mpr MigrationId.some_text_injective
      ((ids_of_decoded decoded).symm.trans h.completed)
  have reads := planRollback_reads h.calm h.listed h.reserved h.decodes decoded (.steps n)
  rw [same] at reads
  exact reads

theorem after {n : Nat} (planned : (ids.take n).mapM (Runner.findReversible migrations) = .ok p)
    (back : w.TakesBack r.tracker p w') : Recedes r migrations (ids.drop n) w' := by
  obtain ⟨v, ends, same⟩ := back
  obtain ⟨own, available⟩ := ids_of_planned planned
  have parts : v.faults = [] ∧ v.database.Reserved r.tracker.table ∧
      v.database.trackingRows r.tracker.table =
        rowsWithout (ids.take n) (w.database.trackingRows r.tracker.table) := by
    rcases h.reserved with absent | ⟨⟨constrained, rows⟩, stored⟩
    · have none_completed := h.completed
      have empty : w.database.trackingRows r.tracker.table = [] := by
        simp only [Database.trackingRows, absent]
      rw [empty, completedRows, List.filter_nil, List.mergeSort_nil, List.map_nil] at none_completed
      obtain rfl : ids = [] := List.map_eq_nil_iff.mp none_completed.symm
      rw [List.take_nil] at own
      obtain rfl : p = [] := List.map_eq_nil_iff.mp own
      cases ends
      exact ⟨h.calm, h.reserved, by rw [empty]; rfl⟩
    · obtain ⟨calm, stored'⟩ := takeBackAll_deletes h.calm stored (fun m inside => (available m inside).2)
        (fun m inside => h.alone migrations h.listed m (available m inside).1) ends
      refine ⟨calm, .inr ⟨_, stored'⟩, ?_⟩
      rw [stored'.trackingRows_eq, stored.trackingRows_eq, own]
  obtain ⟨calm, reserved, rows⟩ := parts
  rw [← same.database] at reserved rows
  refine ⟨h.listed, h.alone, same.faults.trans calm, reserved, ?_, ?_,
    h.distinct.sublist (List.drop_sublist n ids)⟩
  · rw [rows]
    exact fun row inside => h.decodes row (mem_rowsWithout.mp inside).1
  · rw [rows, completedRows_without h.completed h.distinct, List.map_drop, h.completed, List.map_drop]

end Recedes

/-- A rollback succeeds with a report, and leads to a world that is like the given one (`Alike`). -/
def World.RollsBack (w : World) (r : Runner) (strategy : RollbackStrategy) (report : RollbackReport)
    (w' : World) : Prop :=
  ∃ v, w.run (r.rollback strategy false) = (.ok report, v) ∧ v.Alike w'

theorem unwind_iff {report : RollbackReport} :
    (∃ v, w.run (Runner.unwind t plan) = (.ok report, v) ∧ v.Alike w') ↔
      report = .of (idsOf plan) ∧ w.TakesBack t plan w' := by
  unfold World.TakesBack
  cases plan with
  | nil =>
      constructor
      · rintro ⟨v, ends, same⟩
        obtain ⟨told, rfl⟩ := Prod.mk.inj ends
        exact ⟨(Except.ok.inj told).symm, w, rfl, same⟩
      · rintro ⟨rfl, v, ends, same⟩
        obtain ⟨-, rfl⟩ := Prod.mk.inj ends
        exact ⟨_, rfl, same⟩
  | cons m rest =>
      rw [Runner.unwind, List.isEmpty_cons, if_neg Bool.false_ne_true]
      constructor
      · rintro ⟨v, ends, same⟩
        obtain ⟨done, w₁, takes, tells⟩ := bind_ok_inv ends
        obtain ⟨rfl, takes⟩ := takeBackAll_done takes []
        obtain ⟨told, rfl⟩ := Prod.mk.inj tells
        exact ⟨(Except.ok.inj told).symm, w₁, takes, same⟩
      · rintro ⟨rfl, v, takes, same⟩
        exact ⟨v, run_bind_ok takes _, same⟩

theorem rollsBack_iff {r : Runner} {strategy : RollbackStrategy}
    {planned : Except EngineError (List Migration)} (reads : w.Reads (r.planRollback strategy) planned)
    {report : RollbackReport} : w.RollsBack r strategy report w' ↔
      ∃ plan, planned = .ok plan ∧ report = .of (idsOf plan) ∧ w.TakesBack r.tracker plan w' := by
  obtain ⟨es, plans⟩ := reads
  unfold World.RollsBack
  rw [rollback_eq]
  cases planned with
  | error e => simp [run_bind_error plans]
  | ok plan =>
      have still : World.TakesBack { w with events := es } r.tracker plan w' ↔
          w.TakesBack r.tracker plan w' :=
        ⟨fun h => h.alike (alike_events w es).symm (.refl w'),
          fun h => h.alike (alike_events w es) (.refl w')⟩
      rw [run_bind_ok plans, unwind_iff, still]
      simp

/-- Two rollbacks of some steps, one after the other, are one of as many steps. -/
theorem Recedes.rollsBack_add {r : Runner} {migrations : List Migration} {ids : List MigrationId}
    (h : Recedes r migrations ids w) {n m : Nat} {report : RollbackReport} :
    w.RollsBack r (.steps (n + m)) report w'' ↔
      ∃ report₁ report₂ w', w.RollsBack r (.steps n) report₁ w' ∧
        w'.RollsBack r (.steps m) report₂ w'' ∧
        report = .of (report₁.rolledBack ++ report₂.rolledBack) := by
  rw [rollsBack_iff (h.plans (n + m)), List.take_add]
  constructor
  · rintro ⟨plan, planned, rfl, back⟩
    obtain ⟨p, q, front, rest, rfl⟩ := mapM_append_eq_ok.mp planned
    obtain ⟨w', first, second⟩ := takesBack_append_iff.mp back
    refine ⟨_, _, w', (rollsBack_iff (h.plans n)).mpr ⟨p, front, rfl, first⟩,
      (rollsBack_iff ((h.after front first).plans m)).mpr ⟨q, rest, rfl, second⟩, ?_⟩
    exact congrArg RollbackReport.of (List.map_append (f := Migration.id))
  · rintro ⟨report₁, report₂, w', first, second, rfl⟩
    obtain ⟨p, front, rfl, takes⟩ := (rollsBack_iff (h.plans n)).mp first
    obtain ⟨q, rest, rfl, takes'⟩ := (rollsBack_iff ((h.after front takes).plans m)).mp second
    refine ⟨p ++ q, mapM_append_eq_ok.mpr ⟨p, q, front, rest, rfl⟩, ?_,
      takesBack_append_iff.mpr ⟨w', takes, takes'⟩⟩
    exact congrArg RollbackReport.of (List.map_append (f := Migration.id)).symm

theorem rollsBack_of_run {r : Runner} {strategy : RollbackStrategy} {report : RollbackReport}
    (ends : (w.run (r.rollback strategy false)).1 = .ok report) :
    w.RollsBack r strategy report (w.run (r.rollback strategy false)).2 :=
  ⟨_, Prod.ext ends rfl, .refl _⟩

/-- Where a rollback of both numbers of steps succeeds, one of the first number does, and one of the
    second after it, which then ends in the same world but for what is on record. -/
theorem Recedes.in_parts {r : Runner} {migrations : List Migration} {ids : List MigrationId}
    (h : Recedes r migrations ids w) {n m : Nat} {report : RollbackReport}
    (ends : (w.run (r.rollback (.steps (n + m)) false)).1 = .ok report) :
    let between := (w.run (r.rollback (.steps n) false)).2
    ∃ report₁ report₂, (w.run (r.rollback (.steps n) false)).1 = .ok report₁ ∧
      (between.run (r.rollback (.steps m) false)).1 = .ok report₂ ∧
      report₁.rolledBack ++ report₂.rolledBack = report.rolledBack ∧
      (between.run (r.rollback (.steps m) false)).2.Alike
        (w.run (r.rollback (.steps (n + m)) false)).2 := by
  intro between
  obtain ⟨report₁, report₂, w', ⟨v, first, same⟩, ⟨u, second, same'⟩, rfl⟩ :=
    h.rollsBack_add.mp (rollsBack_of_run ends)
  obtain rfl : between = v := congrArg Prod.snd first
  obtain ⟨u', second', like⟩ := run_alike_eq same.symm second
  refine ⟨report₁, report₂, congrArg Prod.fst first, congrArg Prod.fst second', rfl, ?_⟩
  rw [second']
  exact like.symm.trans same'

theorem World.run_bind_congr {α β : Type} {x : Engine α} {f g : α → Engine β}
    (same : ∀ a w', w.run x = (.ok a, w') → w'.run (f a) = w'.run (g a)) :
    w.run (x >>= f) = w.run (x >>= g) := by
  rcases ends : w.run x with ⟨e | a, w'⟩
  · rw [run_bind_error ends, run_bind_error ends]
  · rw [run_bind_ok ends, run_bind_ok ends, same a w' ends]

theorem planRollback_all (r : Runner) (w : World) {c : Nat}
    (enough : (completedRows (w.database.trackingRows r.tracker.table)).length ≤ c) :
    w.run (r.planRollback .all) = w.run (r.planRollback (.steps c)) := by
  have reads := admitsLooking_read r.tracker
  have kept {α : Type} {x : Engine α} {w w' : World} {a : α} (asks : Engine.Asks Request.IsRead x)
      (ends : w.run x = (.ok a, w')) : w'.database = w.database := by
    have same := database_of_asks asks w
    rwa [ends] at same
  unfold Runner.planRollback
  refine run_bind_congr fun migrations w₁ discovers => ?_
  have same₁ : w₁.database = w.database :=
    kept (Engine.asks_ofExcept (r.source.list.mapError .discovery)) discovers
  refine run_bind_congr fun created w₂ looks => ?_
  have same₂ := (kept reads.isCreated looks).trans same₁
  refine run_bind_congr fun _ w₃ checks => ?_
  obtain rfl : w₂ = w₃ := congrArg Prod.snd checks
  cases created with
  | false => simp [RollbackStrategy.select]
  | true =>
      refine run_bind_congr fun records w₄ lists => ?_
      have same₄ := (kept (reads.records .completedByRecency) lists).trans same₂
      obtain ⟨table, stored, decoded⟩ := Runner.records_stored lists
      have length : records.length = (completedRows table.rows).length :=
        (forall₂_of_mapM_ok decoded).length_eq.symm
      rw [same₄] at stored
      rw [stored.trackingRows_eq, ← length] at enough
      have selected : (records.map MigrationRecord.id).take c = records.map MigrationRecord.id :=
        List.take_of_length_le (by rwa [List.length_map])
      simp only [RollbackStrategy.select, selected]

theorem length_completedRows (rows : List TrackingRow) :
    (completedRows rows).length = rows.countP (·.status == some completedStatus) := by
  rw [completedRows, List.length_mergeSort, List.countP_eq_length_filter]

theorem rollback_all (r : Runner) (w : World) {c : Nat}
    (enough : (w.database.trackingRows r.tracker.table).countP (·.status == some completedStatus) ≤ c) :
    w.run (r.rollback .all false) = w.run (r.rollback (.steps c) false) := by
  rw [← length_completedRows] at enough
  rw [rollback_eq, rollback_eq, run_bind, run_bind, planRollback_all r w enough]

theorem rollback_undiscovered {r : Runner} {e : DiscoveryError} (unlisted : r.source.list = .error e)
    (w : World) (strategy : RollbackStrategy) :
    w.run (r.rollback strategy false) = (.error (.discovery e), w) := by
  have discovers : w.run r.discover = (.error (.discovery e), w) := by
    rw [Runner.discover, unlisted]
    rfl
  rw [rollback_eq]
  exact run_bind_error (run_bind_error discovers _) _

theorem recedes {r : Runner} {migrations : List Migration} {w : World}
    (listed : r.source.list = .ok migrations) (alone : r.source.LeavesAlone r.tracker.table)
    (calm : w.faults = []) (reserved : w.database.Reserved r.tracker.table)
    (decodes : ∀ row ∈ w.database.trackingRows r.tracker.table, ∃ record, row.decode = .ok record)
    (distinct : (((w.database.trackingRows r.tracker.table).filter
      (·.status == some completedStatus)).map TrackingRow.id).Nodup) :
    ∃ ids, Recedes r migrations ids w := by
  obtain ⟨records, decoded⟩ := Tracker.decoded_of_decodes fun row inside =>
    decodes row (mem_completedRows.mp inside).1
  have completed := ids_of_decoded decoded
  have unique : ((completedRows (w.database.trackingRows r.tracker.table)).map TrackingRow.id).Nodup :=
    ((List.mergeSort_perm _ _).map _).nodup_iff.mpr distinct
  rw [completed] at unique
  exact ⟨records.map MigrationRecord.id, listed, alone, calm, reserved, decodes, completed,
    List.Nodup.of_map _ unique⟩

/-- Rollbacks compose, with no failing call and on a table whose rows are records. Where no two completed
    rows have one id, a rollback of some steps succeeds when it does in two parts, which then take back the
    same migrations in the same order and leave the same database. A rollback of everything is one of as
    many steps as there are completed rows, or more, and one of the last migration is one step. Reverse
    actions can do anything but write the table: with the same database and the same executions before,
    an action has the same outcome. -/
theorem rollbacks_compose (r : Runner) (w : World) (reserved : w.database.Reserved r.tracker.table)
    (decodes : ∀ row ∈ w.database.trackingRows r.tracker.table, ∃ record, row.decode = .ok record)
    (alone : r.source.LeavesAlone r.tracker.table) (calm : w.faults = []) :
    let completed :=
      (w.database.trackingRows r.tracker.table).filter (·.status == some completedStatus)
    let back (w : World) (strategy : RollbackStrategy) := w.run (r.rollback strategy false)
    let succeeds (w : World) (strategy : RollbackStrategy) :=
      ∃ report, (back w strategy).1 = .ok report
    ((completed.map TrackingRow.id).Nodup → ∀ n m : Nat,
      let between := (back w (.steps n)).2
      (succeeds w (.steps (n + m)) ↔ succeeds w (.steps n) ∧ succeeds between (.steps m)) ∧
      ∀ report, (back w (.steps (n + m))).1 = .ok report →
        ∃ report₁ report₂, (back w (.steps n)).1 = .ok report₁ ∧
          (back between (.steps m)).1 = .ok report₂ ∧
          report₁.rolledBack ++ report₂.rolledBack = report.rolledBack ∧
          (back between (.steps m)).2.database = (back w (.steps (n + m))).2.database) ∧
    (∀ c, completed.length ≤ c → back w .all = back w (.steps c)) ∧
    back w .last = back w (.steps 1) := by
  intro completed back succeeds
  refine ⟨fun distinct n m => ?_, fun c enough => ?_, rfl⟩
  · intro between
    cases listed : r.source.list with
    | error e =>
        have fails (w : World) (strategy : RollbackStrategy) (report : RollbackReport) :
            (back w strategy).1 ≠ .ok report := by
          simp only [back, rollback_undiscovered listed]
          nofun
        exact ⟨iff_of_false (fun ⟨report, ends⟩ => fails _ _ report ends)
          (fun ⟨⟨report, ends⟩, _⟩ => fails _ _ report ends),
          fun report ends => (fails _ _ report ends).elim⟩
    | ok migrations =>
        obtain ⟨ids, h⟩ := recedes listed alone calm reserved decodes distinct
        refine ⟨⟨fun ⟨report, ends⟩ => ?_, fun ⟨⟨report₁, first⟩, report₂, second⟩ => ?_⟩,
          fun report ends => ?_⟩
        · obtain ⟨report₁, report₂, first, second, -⟩ := h.in_parts ends
          exact ⟨⟨report₁, first⟩, report₂, second⟩
        · obtain ⟨v, ends, -⟩ := h.rollsBack_add.mpr
            ⟨report₁, report₂, between, rollsBack_of_run first, rollsBack_of_run second, rfl⟩
          exact ⟨_, congrArg Prod.fst ends⟩
        · obtain ⟨report₁, report₂, first, second, together, same⟩ := h.in_parts ends
          exact ⟨report₁, report₂, first, second, together, same.database.symm⟩
  · rw [← List.countP_eq_length_filter] at enough
    exact rollback_all r w enough

open Sample

/-- Three completed migrations, of which one is taken back and then another one. -/
theorem rollbacks_compose_last :
    let first := Sample.first.withDown "d"
    let second := Sample.second.withDown "e"
    let done (finish : Int) : Stage := .completed (.ofMicros 0) (.ofMicros finish) none
    let rows : List TrackingRow :=
      [(done 9).row second.id, (done 7).row first.id, (done 5).row third.id]
    let db : Database := .holding ⟨true, rows⟩
    let r : Runner := ⟨.registry [first, second, third], ⟨.standard⟩⟩
    let w := World.ticking db
    let back (w : World) (strategy : RollbackStrategy) := w.run (r.rollback strategy false)
    let between := (back w (.steps 1)).2
    (w.database.Reserved r.tracker.table ∧
      (∀ row ∈ w.database.trackingRows r.tracker.table, ∃ record, row.decode = .ok record) ∧
      (((w.database.trackingRows r.tracker.table).filter
        (·.status == some completedStatus)).map TrackingRow.id).Nodup ∧
      r.source.LeavesAlone r.tracker.table ∧ w.faults = []) ∧
    (back w (.steps 2)).1 = .ok (.of [second.id, first.id]) ∧
    (∃ report₁ report₂, (back w (.steps 1)).1 = .ok report₁ ∧
      (back between (.steps 1)).1 = .ok report₂ ∧
      report₁.rolledBack ++ report₂.rolledBack = [second.id, first.id] ∧
      (back between (.steps 1)).2.database = (back w (.steps 2)).2.database) ∧
    back w .all = back w (.steps 4) ∧ back w .last = back w (.steps 1) := by
  intro first second done rows db r w back between
  have listed : r.source.list = .ok [first, second, third] := inOrder_of_ascending (by decide)
  have alone : r.source.LeavesAlone r.tracker.table :=
    Source.leavesAlone_silent listed (by decide) r.tracker.table
  have stored : w.database.Stores r.tracker.table ⟨true, rows⟩ := .holding _
  have present : w.database.trackingRows r.tracker.table = rows := stored.trackingRows_eq
  have decodes : ∀ row ∈ w.database.trackingRows r.tracker.table, ∃ record, row.decode = .ok record := by
    rw [present]
    simp only [rows, List.mem_cons, List.not_mem_nil, or_false]
    rintro row (rfl | rfl | rfl) <;> exact ⟨_, Stage.decode_row _ _⟩
  have distinct : (((w.database.trackingRows r.tracker.table).filter
      (·.status == some completedStatus)).map TrackingRow.id).Nodup := by
    rw [present]
    decide
  have sorted : completedRows rows = rows := List.mergeSort_of_pairwise (by decide)
  have h : Recedes r [first, second, third] [second.id, first.id, third.id] w :=
    ⟨listed, alone, rfl, .inr ⟨_, stored⟩, decodes, by rw [present, sorted]; rfl, by decide⟩
  have whole : (back w (.steps 2)).1 = .ok (.of [second.id, first.id]) := by
    obtain ⟨v, ends, -⟩ := (rollsBack_iff (h.plans 2)).mpr
      ⟨[second, first], by with_unfolding_all rfl, rfl,
        takesBack_of_run (by decide +kernel)⟩
    exact congrArg Prod.fst ends
  obtain ⟨split, everything, last⟩ := rollbacks_compose r w (.inr ⟨_, stored⟩) decodes alone rfl
  refine ⟨⟨.inr ⟨_, stored⟩, decodes, distinct, alone, rfl⟩, whole, (split distinct 1 1).2 _ whole,
    everything 4 ?_, last⟩
  rw [present]
  decide

/-- In a table that was made without constraints, one id can have two completed rows. A rollback of two
    steps takes that migration back twice; the first of two rollbacks of one step deletes both rows, and
    leaves nothing for the second one. -/
theorem rollbacks_of_doubled_row :
    let m := Sample.first.withDown "b"
    let done (finish : Int) : Stage := .completed (.ofMicros 0) (.ofMicros finish) none
    let rows : List TrackingRow := [(done 7).row m.id, (done 5).row m.id]
    let db : Database := .holding ⟨false, rows⟩
    let r : Runner := ⟨.registry [m], ⟨.standard⟩⟩
    let w := World.ticking db
    let back (w : World) (strategy : RollbackStrategy) := w.run (r.rollback strategy false)
    let between := (back w (.steps 1)).2
    ((∀ row ∈ w.database.trackingRows r.tracker.table, ∃ record, row.decode = .ok record) ∧
      r.source.LeavesAlone r.tracker.table ∧ w.faults = []) ∧
    (back w (.steps (1 + 1))).1 = .ok (.of [m.id, m.id]) ∧
    (back w (.steps 1)).1 = .ok (.of [m.id]) ∧ (back between (.steps 1)).1 = .ok (.of []) := by
  intro m done rows db r w back between
  have listed : r.source.list = .ok [m] := inOrder_of_ascending (by decide)
  have stored : w.database.Stores r.tracker.table ⟨false, rows⟩ := .holding _
  have present : w.database.trackingRows r.tracker.table = rows := stored.trackingRows_eq
  have decodes : ∀ row ∈ w.database.trackingRows r.tracker.table, ∃ record, row.decode = .ok record := by
    rw [present]
    simp only [rows, List.mem_cons, List.not_mem_nil, or_false]
    rintro row (rfl | rfl) <;> exact ⟨_, Stage.decode_row _ _⟩
  have decoded : (completedRows (w.database.trackingRows r.tracker.table)).mapM Tracker.decodeRow =
      .ok [(done 7).record m.id, (done 5).record m.id] := by
    have sorted : completedRows rows = rows := List.mergeSort_of_pairwise (by decide)
    rw [present, sorted]
    simp only [rows, List.mapM_cons, Tracker.decodeRow, Stage.decode_row]
    rfl
  have plans := planRollback_reads (w := w) rfl listed (.inr ⟨_, stored⟩) decodes decoded
  obtain ⟨v, twice, -⟩ := (rollsBack_iff (plans (.steps (1 + 1)))).mpr
    ⟨[m, m], by with_unfolding_all rfl, rfl, takesBack_of_run (by decide +kernel)⟩
  obtain ⟨v₁, once, same⟩ := (rollsBack_iff (plans (.steps 1))).mpr
    ⟨[m], by with_unfolding_all rfl, rfl, takesBack_of_run (by decide +kernel)⟩
  obtain rfl : between = v₁ := congrArg Prod.snd once
  have stored₁ : between.database.Stores r.tracker.table ⟨false, []⟩ := by
    rw [← same.database]
    unfold Database.Stores
    decide +kernel
  have left : between.database.trackingRows r.tracker.table = [] := stored₁.trackingRows_eq
  have calm₁ : between.faults = [] := same.faults.symm.trans (by decide +kernel)
  have decoded₁ : (completedRows (between.database.trackingRows r.tracker.table)).mapM
      Tracker.decodeRow = .ok [] := by
    rw [left, completedRows, List.filter_nil, List.mergeSort_nil]
    rfl
  have plans₁ := planRollback_reads calm₁ listed (.inr ⟨_, stored₁⟩) (by simp [left]) decoded₁
  obtain ⟨v₂, again, -⟩ := (rollsBack_iff (plans₁ (.steps 1))).mpr ⟨[], rfl, rfl, _, rfl, .refl _⟩
  exact ⟨⟨decodes, Source.leavesAlone_silent listed (by decide) _, rfl⟩, congrArg Prod.fst twice,
    congrArg Prod.fst once, congrArg Prod.fst again⟩

end SchemaMigration
