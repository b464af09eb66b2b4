import Mathlib.Data.List.Perm.Basic
import SchemaMigration.Proofs.Order
import SchemaMigration.Proofs.Records

/-! # Sources of the same units

The same units as an embedded bundle, as a directory tree and as registered migrations. All three list
migrations that `Agree`, in whatever order the units stand, or the first two refuse an id with blanks at
its ends. Descriptions are the one thing that a directory cannot hold, and nothing is said about them
here.
-/

namespace SchemaMigration

theorem inOrder_of_distinct {migrations : List Migration} (distinct : (idsOf migrations).Nodup) :
    ∃ listed, inOrder migrations = .ok listed ∧ listed.Perm migrations := by
  have perm : (migrations.mergeSort fun a b => a.id ≤ b.id).Perm migrations := List.mergeSort_perm ..
  have single := adjacentDuplicate?_of_distinct ((perm.map Migration.id).nodup_iff.mpr distinct)
  refine ⟨_, ?_, perm⟩
  simp only [inOrder, single]

/-- A migration without its description, which no run or rollback looks at. -/
def Migration.plain (m : Migration) : Migration :=
  { m with description := none }

/-- Two lists agree in everything that matters to runs and rollbacks. -/
structure Agree (listed other : List Migration) : Prop where
  ids : idsOf listed = idsOf other
  reversible : listed.map Migration.isReversible = other.map Migration.isReversible
  checksums : listed.map Migration.checksum = other.map Migration.checksum
  actions : ∀ d, listed.map (·.action? d) = other.map (·.action? d)

theorem Agree.of_plain {listed other : List Migration}
    (same : listed.map Migration.plain = other.map Migration.plain) : Agree listed other := by
  have through {α : Type} (f : Migration → α) (blind : ∀ m, f m.plain = f m) :
      listed.map f = other.map f := by
    have mapped := congrArg (List.map f) same
    simpa only [List.map_map, Function.comp_def, blind] using mapped
  exact ⟨through _ fun _ => rfl, through _ fun _ => rfl, through _ fun _ => rfl,
    fun d => through _ fun m => by cases d <;> rfl⟩

namespace EmbeddedUnit

/-- A migration is what a unit says: its id, its forward text or an empty one, and its reverse text if it
    has one. -/
structure StandsFor (u : EmbeddedUnit) (m : Migration) : Prop where
  id : m.id.text = u.id
  up : m.up = .sql (u.up.getD "")
  down : m.down = u.down.map .sql

theorem StandsFor.plain_eq {u : EmbeddedUnit} {m other : Migration} (h : u.StandsFor m)
    (h' : u.StandsFor other) : m.plain = other.plain := by
  have id : m.id = other.id := MigrationId.ext_text (h.id.trans h'.id.symm)
  simp only [Migration.plain, id, h.up, h'.up, h.down, h'.down]

/-- A unit that a migration is needed for has blanks at the ends of its id. -/
def IsRefused (u : EmbeddedUnit) : Prop :=
  u.hasContent = true ∧ Text.trim u.id ≠ u.id

/-- Migrations in order for exactly the units with content. -/
structure ListedAs (units : List EmbeddedUnit) (listed : List Migration) : Prop where
  ascending : Ascending listed
  complete : ∀ u ∈ units, u.hasContent = true → ∃ m ∈ listed, u.StandsFor m
  sound : ∀ m ∈ listed, ∃ u ∈ units, u.hasContent = true ∧ u.StandsFor m

/-- There is only one way to list units, but for the descriptions. -/
theorem ListedAs.agree {units : List EmbeddedUnit} {listed other : List Migration}
    (h : ListedAs units listed) (h' : ListedAs units other) : Agree listed other := by
  have order {ms : List Migration} (ascending : Ascending ms) : Ascending (ms.map Migration.plain) :=
    List.pairwise_map.mpr ascending
  have distinct {ms : List Migration} (ascending : Ascending ms) : (ms.map Migration.plain).Nodup :=
    (order ascending).distinct.of_map _
  have among {ms ms' : List Migration} (one : ListedAs units ms) (two : ListedAs units ms')
      {m : Migration} (inside : m ∈ ms.map Migration.plain) : m ∈ ms'.map Migration.plain := by
    obtain ⟨own, known, rfl⟩ := List.mem_map.mp inside
    obtain ⟨u, unit, content, stands⟩ := one.sound own known
    obtain ⟨m', known', stands'⟩ := two.complete u unit content
    exact List.mem_map.mpr ⟨m', known', stands'.plain_eq stands⟩
  have perm : (listed.map Migration.plain).Perm (other.map Migration.plain) :=
    (List.perm_ext_iff_of_nodup (distinct h.ascending) (distinct h'.ascending)).mpr fun m =>
      ⟨among h h', among h' h⟩
  exact Agree.of_plain ((order h.ascending).eq_of_perm (order h'.ascending) perm)

theorem listedAs_of_found {units order : List EmbeddedUnit} {found : List Migration}
    (distinct : (units.map EmbeddedUnit.id).Nodup) (shuffled : order.Perm units)
    (pairs : List.Forall₂ StandsFor (order.filter hasContent) found) :
    ∃ listed, inOrder found = .ok listed ∧ ListedAs units listed := by
  have texts : (idsOf found).map MigrationId.text = (order.filter hasContent).map EmbeddedUnit.id := by
    generalize order.filter hasContent = kept at pairs
    induction pairs with
    | nil => rfl
    | cons first _ ih => exact congrArg₂ List.cons first.id ih
  have single : (idsOf found).Nodup := by
    apply List.Nodup.of_map MigrationId.text
    rw [texts]
    exact (List.filter_sublist.map _).nodup ((shuffled.map _).nodup_iff.mpr distinct)
  obtain ⟨of_unit, of_found⟩ := members_of_forall₂ pairs
  obtain ⟨listed, ordered, perm⟩ := inOrder_of_distinct single
  refine ⟨listed, ordered, ascending_of_inOrder ordered, fun u unit content => ?_, fun m inside => ?_⟩
  · obtain ⟨m, known, stands⟩ :=
      of_unit u (List.mem_filter.mpr ⟨shuffled.mem_iff.mpr unit, content⟩)
    exact ⟨m, perm.mem_iff.mpr known, stands⟩
  · obtain ⟨u, known, stands⟩ := of_found m (perm.mem_iff.mp inside)
    obtain ⟨among, content⟩ := List.mem_filter.mp known
    exact ⟨u, shuffled.mem_iff.mp among, content, stands⟩

theorem StandsFor.not_refused {u : EmbeddedUnit} {m : Migration} (h : u.StandsFor m) : ¬u.IsRefused := by
  rintro ⟨-, blanks⟩
  rw [← h.id] at blanks
  exact blanks m.id.isValid.2

theorem ListedAs.not_refused {units : List EmbeddedUnit} {listed : List Migration}
    (h : ListedAs units listed) {u : EmbeddedUnit} (unit : u ∈ units) : ¬u.IsRefused := by
  intro refused
  obtain ⟨m, -, stands⟩ := h.complete u unit refused.1
  exact stands.not_refused refused

/-- How a source ends that holds units: all of them are listed, or one of them is refused. -/
inductive Ends (units : List EmbeddedUnit) (fault : IdFault) :
    Except DiscoveryError (List Migration) → Prop
  | listed (listed : List Migration) (right : ListedAs units listed) : Ends units fault (.ok listed)
  | refused (u : EmbeddedUnit) (unit : u ∈ units) (refused : u.IsRefused) :
      Ends units fault (.error (.invalidId u.id fault))

def migrationOr (u : EmbeddedUnit) (description : Option String) (fault : IdFault) :
    Except DiscoveryError Migration :=
  match MigrationId.ofText? u.id with
  | some id => .ok ⟨id, description, .sql (u.up.getD ""), u.down.map .sql⟩
  | none => .error (.invalidId u.id fault)

theorem standsFor_of_loaded {u : EmbeddedUnit} {description : Option String} {fault : IdFault}
    {m : Migration} (h : u.migrationOr description fault = .ok m) : u.StandsFor m := by
  unfold migrationOr at h
  split at h
  · rename_i known
    obtain rfl := Except.ok.inj h
    exact ⟨MigrationId.ofText?_eq_some known, rfl, rfl⟩
  · cases h

theorem blanks_of_not_loaded {u : EmbeddedUnit} {description : Option String} {fault : IdFault}
    {e : DiscoveryError} (present : u.id ≠ "") (h : u.migrationOr description fault = .error e) :
    e = .invalidId u.id fault ∧ Text.trim u.id ≠ u.id := by
  unfold migrationOr at h
  split at h
  · cases h
  · rename_i unknown
    refine ⟨(Except.error.inj h).symm, fun trimmed => ?_⟩
    rw [MigrationId.ofText?, dif_pos ⟨present, trimmed⟩] at unknown
    cases unknown

section
variable {units order : List EmbeddedUnit} (distinct : (units.map EmbeddedUnit.id).Nodup)
variable (present : ∀ u ∈ units, u.id ≠ "") (shuffled : order.Perm units)
include distinct present shuffled

theorem list_ends : Ends units .inTable (EmbeddedUnit.list order) := by
  unfold EmbeddedUnit.list
  cases found : (order.filter hasContent).mapM toMigration with
  | ok ms =>
      have pairs : List.Forall₂ StandsFor (order.filter hasContent) ms :=
        (forall₂_of_mapM_ok found).imp fun _ _ loaded => standsFor_of_loaded loaded
      obtain ⟨listed, ordered, right⟩ := listedAs_of_found distinct shuffled pairs
      change Ends units .inTable (inOrder ms)
      rw [ordered]
      exact .listed listed right
  | error e =>
      obtain ⟨u, kept, fails⟩ := exists_of_mapM_error found
      obtain ⟨among, content⟩ := List.mem_filter.mp kept
      have unit := shuffled.mem_iff.mp among
      obtain ⟨rfl, blanks⟩ := blanks_of_not_loaded (present u unit) fails
      exact .refused u unit ⟨content, blanks⟩

end

/-- The directory of a unit: it has the unit's id for a name, and a file for each direction that is
    there. -/
structure HeldBy (u : EmbeddedUnit) (entry : ByteArray × Node) : Prop where
  name : entry.1 = u.id.toUTF8
  isDirectory : entry.2.isDirectory = true
  up : entry.2.child? MigrationDirectory.upFile.toUTF8 = u.up.map fun text => .file text.toUTF8
  down : entry.2.child? MigrationDirectory.downFile.toUTF8 = u.down.map fun text => .file text.toUTF8

theorem fromUTF8?_toUTF8 (s : String) : String.fromUTF8? s.toUTF8 = some s := by
  unfold String.fromUTF8?
  rw [String.toUTF8_eq_toByteArray, dif_pos s.isValidUTF8]
  rfl

theorem readOptional_of_file {path file : String} {n : Node} {part : Option String}
    (h : n.child? file.toUTF8 = part.map fun text => .file text.toUTF8) :
    MigrationDirectory.readOptional path n file = .ok part := by
  unfold MigrationDirectory.readOptional
  rw [h]
  cases part with
  | none => rfl
  | some text =>
      simp only [Option.map_some, Node.isDirectory, Node.entries?, Option.isSome_none, Bool.false_eq_true,
        if_false, Node.readText, fromUTF8?_toUTF8]

theorem loadOne_of_held {u : EmbeddedUnit} {entry : ByteArray × Node} (path : String)
    (held : u.HeldBy entry) :
    MigrationDirectory.loadOne path u.id entry.2 =
      if u.hasContent then (u.migrationOr none .asDirectory).map some else .ok none := by
  have empty : (u.up.isNone && u.down.isNone) = !u.hasContent := by
    unfold hasContent
    cases u.up <;> cases u.down <;> rfl
  simp only [MigrationDirectory.loadOne, readOptional_of_file held.up, readOptional_of_file held.down, bind,
    Except.bind, empty]
  cases u.hasContent with
  | false => rfl
  | true =>
      simp only [Bool.not_true, Bool.false_eq_true, if_false, if_true, pure, Except.pure, migrationOr]
      cases MigrationId.ofText? u.id <;> rfl

theorem loadEntry_of_held {u : EmbeddedUnit} {entry : ByteArray × Node} (root : String)
    (held : u.HeldBy entry) (visible : MigrationDirectory.isHidden u.id = false) :
    MigrationDirectory.loadEntry root entry =
      if u.hasContent then (u.migrationOr none .asDirectory).map some else .ok none := by
  simp only [MigrationDirectory.loadEntry, held.isDirectory, held.name, fromUTF8?_toUTF8, visible,
    Bool.not_true, Bool.false_eq_true, if_false, loadOne_of_held _ held]

/-- Entries are loaded one by one, and what they hold is what the units with content stand for. -/
theorem standFor_of_loaded {order : List EmbeddedUnit} {entries : List (ByteArray × Node)}
    {found : List (Option Migration)} {root : String}
    (visible : ∀ u ∈ order, MigrationDirectory.isHidden u.id = false)
    (held : List.Forall₂ HeldBy order entries)
    (loaded : entries.mapM (MigrationDirectory.loadEntry root) = .ok found) :
    List.Forall₂ StandsFor (order.filter hasContent) (found.filterMap fun m? => m?) := by
  have pairs := forall₂_of_mapM_ok loaded
  clear loaded
  induction held generalizing found with
  | nil =>
      cases pairs
      exact .nil
  | @cons u entry _ _ first _ ih =>
      cases pairs with
      | @cons _ m? _ others own rest =>
          have later := ih (fun u' inside => visible u' (List.mem_cons_of_mem u inside)) rest
          rw [loadEntry_of_held root first (visible u List.mem_cons_self)] at own
          cases content : u.hasContent with
          | false =>
              -- The directory is there, but there is nothing in it.
              simp only [content, Bool.false_eq_true, if_false, Except.ok.injEq] at own
              subst own
              simpa only [List.filter_cons, content, Bool.false_eq_true, if_false, List.filterMap_cons,
                id_eq] using later
          | true =>
              simp only [content, if_true] at own
              cases loaded : u.migrationOr none .asDirectory with
              | error e => simp only [loaded, Except.map, reduceCtorEq] at own
              | ok m =>
                  simp only [loaded, Except.map, Except.ok.injEq] at own
                  subst own
                  simp only [List.filter_cons, content, if_true, List.filterMap_cons]
                  exact .cons (standsFor_of_loaded loaded) later

section
variable {units order : List EmbeddedUnit} (distinct : (units.map EmbeddedUnit.id).Nodup)
variable (present : ∀ u ∈ units, u.id ≠ "") (shuffled : order.Perm units)
variable (visible : ∀ u ∈ units, MigrationDirectory.isHidden u.id = false)
variable {entries : List (ByteArray × Node)} (held : List.Forall₂ HeldBy order entries)
include distinct present shuffled visible held

theorem listEntries_ends (root : String) :
    Ends units .asDirectory (MigrationDirectory.listEntries root entries) := by
  unfold MigrationDirectory.listEntries
  cases loaded : entries.mapM (MigrationDirectory.loadEntry root) with
  | ok found =>
      have pairs := standFor_of_loaded (fun u among => visible u (shuffled.mem_iff.mp among)) held loaded
      obtain ⟨listed, ordered, right⟩ := listedAs_of_found distinct shuffled pairs
      change Ends units .asDirectory (inOrder (found.filterMap fun m? => m?))
      rw [ordered]
      exact .listed listed right
  | error e =>
      obtain ⟨entry, inside, fails⟩ := exists_of_mapM_error loaded
      obtain ⟨u, among, holds⟩ := (members_of_forall₂ held).2 entry inside
      have unit := shuffled.mem_iff.mp among
      rw [loadEntry_of_held root holds (visible u unit)] at fails
      cases content : u.hasContent with
      | false => simp only [content, Bool.false_eq_true, if_false, reduceCtorEq] at fails
      | true =>
          simp only [content, if_true] at fails
          cases own : u.migrationOr none .asDirectory with
          | ok m => simp only [own, Except.map, reduceCtorEq] at fails
          | error e' =>
              obtain ⟨rfl, blanks⟩ := blanks_of_not_loaded (present u unit) own
              simp only [own, Except.map, Except.error.injEq] at fails
              subst fails
              exact .refused u unit ⟨content, blanks⟩

end

/-- A registry of units: one migration for each unit with content, in any order. -/
def Registers (registered : List Migration) (units : List EmbeddedUnit) : Prop :=
  ∃ order : List EmbeddedUnit, order.Perm units ∧ List.Forall₂ StandsFor (order.filter hasContent) registered

/-- A directory with one directory for each unit in it, in any order, and nothing else. -/
def KeptUnder (units : List EmbeddedUnit) (tree : FileTree) (root : String) : Prop :=
  ∃ (order : List EmbeddedUnit) (entries : List (ByteArray × Node)), order.Perm units ∧
    tree.find? root = some (.directory entries) ∧ List.Forall₂ HeldBy order entries

/-- Names of directories that are looked into are not empty and begin with no dot. -/
def HasVisibleName (u : EmbeddedUnit) : Prop :=
  u.id ≠ "" ∧ MigrationDirectory.isHidden u.id = false

theorem bundle_ends {units bundle : List EmbeddedUnit} (distinct : (units.map EmbeddedUnit.id).Nodup)
    (names : ∀ u ∈ units, u.HasVisibleName) (bundled : bundle.Perm units) :
    Ends units .inTable (Source.embedded bundle).list :=
  list_ends distinct (fun u unit => (names u unit).1) bundled

theorem directory_ends {units : List EmbeddedUnit} {tree : FileTree} {root : String}
    (distinct : (units.map EmbeddedUnit.id).Nodup) (names : ∀ u ∈ units, u.HasVisibleName)
    (kept : KeptUnder units tree root) : Ends units .asDirectory (Source.directory tree root).list := by
  obtain ⟨order, entries, shuffled, place, held⟩ := kept
  have entered : (Source.directory tree root).list = MigrationDirectory.listEntries root entries := by
    simp only [Source.list, MigrationDirectory.list, place, Option.bind_some, Node.entries?]
  rw [entered]
  exact listEntries_ends distinct (fun u unit => (names u unit).1) shuffled
    (fun u unit => (names u unit).2) held root

theorem registry_ends {units : List EmbeddedUnit} {registered : List Migration}
    (distinct : (units.map EmbeddedUnit.id).Nodup) (registers : Registers registered units) :
    ∃ listed, (Source.registry registered).list = .ok listed ∧ ListedAs units listed := by
  obtain ⟨order, shuffled, pairs⟩ := registers
  exact listedAs_of_found distinct shuffled pairs

theorem Ends.error {units : List EmbeddedUnit} {fault : IdFault}
    {result : Except DiscoveryError (List Migration)} (h : Ends units fault result)
    (refused : ∃ u ∈ units, u.IsRefused) :
    ∃ u ∈ units, u.IsRefused ∧ result = .error (.invalidId u.id fault) := by
  obtain ⟨u, unit, reason⟩ := refused
  cases h with
  | listed _ right => exact absurd reason (right.not_refused unit)
  | refused other unit' reason' => exact ⟨other, unit', reason', rfl⟩

theorem Ends.ok {units : List EmbeddedUnit} {fault : IdFault}
    {result : Except DiscoveryError (List Migration)} (h : Ends units fault result)
    (accepted : ∀ u ∈ units, ¬u.IsRefused) : ∃ listed, result = .ok listed ∧ ListedAs units listed := by
  cases h with
  | listed listed right => exact ⟨listed, rfl, right⟩
  | refused other unit reason => exact absurd reason (accepted other unit)

/-- Bundles and directories are refused for the same units (`IsRefused`). If there are none such, then
    bundles, directories and registries are listed alike. -/
theorem sources_agree {units bundle : List EmbeddedUnit} {tree : FileTree} {root : String}
    (distinct : (units.map EmbeddedUnit.id).Nodup) (names : ∀ u ∈ units, u.HasVisibleName)
    (bundled : bundle.Perm units) (kept : KeptUnder units tree root) :
    ((∃ u ∈ units, u.IsRefused) →
      (∃ u ∈ units, u.IsRefused ∧ (Source.embedded bundle).list = .error (.invalidId u.id .inTable)) ∧
      ∃ u ∈ units, u.IsRefused ∧
        (Source.directory tree root).list = .error (.invalidId u.id .asDirectory)) ∧
    ((∀ u ∈ units, ¬u.IsRefused) → ∃ listed found,
      (Source.embedded bundle).list = .ok listed ∧ ListedAs units listed ∧
      (Source.directory tree root).list = .ok found ∧ ListedAs units found ∧ Agree listed found ∧
      ∀ registered, Registers registered units →
        ∃ own, (Source.registry registered).list = .ok own ∧ ListedAs units own ∧ Agree listed own) := by
  have bundle := bundle_ends distinct names bundled
  have directory := directory_ends distinct names kept
  refine ⟨fun refused => ⟨bundle.error refused, directory.error refused⟩, fun accepted => ?_⟩
  obtain ⟨listed, ok, right⟩ := bundle.ok accepted
  obtain ⟨found, ok', right'⟩ := directory.ok accepted
  refine ⟨listed, found, ok, right, ok', right', right.agree right', fun registered registers => ?_⟩
  obtain ⟨own, ok'', right''⟩ := registry_ends distinct registers
  exact ⟨own, ok'', right'', right.agree right''⟩

/-- Two units and an empty one, in three different orders; and with one more unit that is refused. -/
theorem sources_agree_shuffled :
    let first : EmbeddedUnit := ⟨"001", some "a", some "b", some "first"⟩
    let second : EmbeddedUnit := ⟨"002", none, some "c", none⟩
    let empty : EmbeddedUnit := ⟨"003", none, none, none⟩
    let blank : EmbeddedUnit := ⟨"004 ", some "d", none, none⟩
    let held : List (ByteArray × Node) := [("003".toUTF8, .directory []),
      ("002".toUTF8, .directory [("down.sql".toUTF8, .file "c".toUTF8)]),
      ("001".toUTF8, .directory
        [("up.sql".toUTF8, .file "a".toUTF8), ("down.sql".toUTF8, .file "b".toUTF8)])]
    let more : List (ByteArray × Node) :=
      ("004 ".toUTF8, .directory [("up.sql".toUTF8, .file "d".toUTF8)]) :: held
    let tree : FileTree :=
      ⟨.directory [("some".toUTF8, .directory held), ("more".toUTF8, .directory more)], "/"⟩
    let registered : List Migration := [⟨⟨"002", by decide⟩, none, .sql "", some (.sql "c")⟩,
      ⟨⟨"001", by decide⟩, none, .sql "a", some (.sql "b")⟩]
    (∃ listed found own, (Source.embedded [empty, first, second]).list = .ok listed ∧
      (Source.directory tree "some").list = .ok found ∧ (Source.registry registered).list = .ok own ∧
      ListedAs [first, second, empty] listed ∧ Agree listed found ∧ Agree listed own) ∧
    ∃ u ∈ [first, second, empty, blank], u.IsRefused ∧
      (Source.directory tree "more").list = .error (.invalidId u.id .asDirectory) := by
  intro first second empty blank held more tree registered
  have pairs : List.Forall₂ HeldBy [empty, second, first] held :=
    .cons ⟨rfl, rfl, rfl, rfl⟩ (.cons ⟨rfl, rfl, rfl, rfl⟩ (.cons ⟨rfl, rfl, rfl, rfl⟩ .nil))
  have names : ∀ u ∈ [first, second, empty, blank], u.HasVisibleName := by
    dsimp only [first, second, empty, blank, HasVisibleName]
    decide
  constructor
  · have place : tree.find? "some" = some (.directory held) := by
      dsimp only [tree, more, held]
      rfl
    have kept : KeptUnder [first, second, empty] tree "some" :=
      ⟨[empty, second, first], held, by decide, place, pairs⟩
    have accepted : ∀ u ∈ [first, second, empty], ¬u.IsRefused := by
      dsimp only [first, second, empty, IsRefused]
      decide
    have registers : Registers registered [first, second, empty] :=
      ⟨[second, empty, first], by decide, .cons ⟨rfl, rfl, rfl⟩ (.cons ⟨rfl, rfl, rfl⟩ .nil)⟩
    have agreed := sources_agree (by decide) (fun u unit => names u (List.mem_append_left [blank] unit))
      (by decide : [empty, first, second].Perm _) kept
    obtain ⟨listed, found, bundle, right, directory, -, same, others⟩ := agreed.2 accepted
    obtain ⟨own, registry, -, same'⟩ := others registered registers
    exact ⟨listed, found, own, bundle, directory, registry, right, same, same'⟩
  · have place : tree.find? "more" = some (.directory more) := by
      dsimp only [tree, more, held]
      rfl
    have kept : KeptUnder [first, second, empty, blank] tree "more" :=
      ⟨[blank, empty, second, first], more, by decide, place, .cons ⟨rfl, rfl, rfl, rfl⟩ pairs⟩
    have refused : blank.IsRefused := by
      dsimp only [blank, IsRefused]
      decide
    exact ((sources_agree (by decide) names (.refl _) kept).1 ⟨blank, by decide, refused⟩).2

end EmbeddedUnit

end SchemaMigration
