import SchemaMigration.Proofs.Duplicates
import SchemaMigration.Proofs.Relisting

/-! # Discovery in a directory tree

The entries of a root are loaded one after the other, and loading stops at the first that cannot be.
Which one that is (`Spoils`) depends on the listing order; whether there is one does not, and neither
does the list when there is none.
-/

namespace SchemaMigration

def Node.file? (n : Node) (name : String) : Option Node :=
  (n.child? name.toUTF8).filter Node.isFile

namespace MigrationDirectory

/-- A directory below a root that is looked into: its name is a text and begins with no dot. -/
structure IsSeen (entry : ByteArray × Node) (name : String) : Prop where
  isDirectory : entry.2.isDirectory = true
  named : entry.1 = name.toUTF8
  visible : isHidden name = false

def HasContent (n : Node) : Prop :=
  (n.file? upFile).isSome ∨ (n.file? downFile).isSome

/-- The text that a directory has under a name: none if there is no regular file of the name, and otherwise
    the content of the file. -/
def HasText (n : Node) (file : String) (part : Option String) : Prop :=
  (n.file? file).map Node.readText = part.map .ok

/-- An entry holds a migration: its name is the id, and the files hold the actions, an empty one where
    there is no forward file. -/
structure Holds (entry : ByteArray × Node) (m : Migration) : Prop where
  seen : IsSeen entry m.id.text
  content : HasContent entry.2
  forward : ∃ up, HasText entry.2 upFile up ∧ m.up = .sql (up.getD "")
  reverse : ∃ down, HasText entry.2 downFile down ∧ m.down = down.map .sql

/-- An entry keeps the others from being listed: `HasText` fails for one of its files, or it is needed
    for a migration and its name has blanks at its ends. -/
inductive Spoils (entry : ByteArray × Node) : Prop
  | undecodable (name : String) (seen : IsSeen entry name) (file : String)
      (known : file = upFile ∨ file = downFile) (f : Node) (present : entry.2.file? file = some f)
      (fault : f.readText = .error .notUtf8)
  | blanks (name : String) (seen : IsSeen entry name) (content : HasContent entry.2)
      (blanks : Text.trim name ≠ name)

theorem IsSeen.unique {entry : ByteArray × Node} {name other : String} (h : IsSeen entry name)
    (h' : IsSeen entry other) : name = other := by
  have same : name.toUTF8 = other.toUTF8 := h.named.symm.trans h'.named
  rwa [String.toUTF8_eq_toByteArray, String.toUTF8_eq_toByteArray, String.toByteArray_inj] at same

theorem Holds.not_spoils {entry : ByteArray × Node} {m : Migration} (h : Holds entry m) :
    ¬Spoils entry := by
  have decodes {file : String} {part : Option String} {f : Node} (content : HasText entry.2 file part)
      (present : entry.2.file? file = some f) : f.readText ≠ .error .notUtf8 := by
    rw [HasText, present, Option.map_some] at content
    cases part with
    | none => cases content
    | some text => rw [Option.some.inj content]; nofun
  rintro (⟨-, -, _, rfl | rfl, _, present, fault⟩ | ⟨name, seen, -, blanks⟩)
  · obtain ⟨_, content, -⟩ := h.forward
    exact decodes content present fault
  · obtain ⟨_, content, -⟩ := h.reverse
    exact decodes content present fault
  · rw [seen.unique h.seen] at blanks
    exact blanks m.id.isValid.2

theorem Spoils.seen {entry : ByteArray × Node} (h : Spoils entry) :
    ∃ name, IsSeen entry name ∧ HasContent entry.2 := by
  cases h with
  | undecodable name seen _ known _ present _ =>
      refine ⟨name, seen, ?_⟩
      rcases known with rfl | rfl
      · exact .inl (by rw [present]; rfl)
      · exact .inr (by rw [present]; rfl)
  | blanks name seen content _ => exact ⟨name, seen, content⟩

/-- Only what a regular file holds can fail to be a text. -/
theorem readText_of_file {n f : Node} {file : String} (present : n.file? file = some f) :
    (∃ text, f.readText = .ok text) ∨ f.readText = .error .notUtf8 := by
  obtain ⟨-, regular⟩ := Option.filter_eq_some_iff.mp present
  cases f with
  | file content =>
      cases decoded : String.fromUTF8? content with
      | some text => exact .inl ⟨text, by simp only [Node.readText, decoded]⟩
      | none => exact .inr (by simp only [Node.readText, decoded])
  | database _ => exact .inr rfl
  | directory _ => cases regular

/-- An error that is not about two equal ids. -/
def IsNoDuplicate (e : DiscoveryError) : Prop :=
  ∀ id, e ≠ .duplicateId id

theorem readOptional_ends (path : String) (n : Node) (file : String) :
    (∃ part, readOptional path n file = .ok part ∧ HasText n file part) ∨
      ∃ f e, n.file? file = some f ∧ f.readText = .error .notUtf8 ∧
        readOptional path n file = .error e ∧ IsNoDuplicate e := by
  unfold readOptional HasText
  cases found : n.child? file.toUTF8 with
  | none => exact .inl ⟨none, rfl, by rw [Node.file?, found]; rfl⟩
  | some child =>
      cases kind : child.isDirectory with
      | true =>
          have missing : n.file? file = none := by
            simp only [Node.file?, found, Option.filter_some, Node.isFile, kind, Bool.not_true,
              Bool.false_eq_true, if_false]
          exact .inl ⟨none, by simp only [kind, if_true], by rw [missing]; rfl⟩
      | false =>
          have present : n.file? file = some child := by
            simp only [Node.file?, found, Option.filter_some, Node.isFile, kind, Bool.not_false, if_true]
          simp only [kind, Bool.false_eq_true, if_false, present]
          rcases readText_of_file present with ⟨text, reads⟩ | fault
          · exact .inl ⟨some text, by simp only [reads], by rw [Option.map_some, reads]; rfl⟩
          · exact .inr ⟨child, .unreadable (Path.join path file) .notUtf8, rfl, fault,
              by simp only [fault], fun _ same => DiscoveryError.noConfusion same⟩

/-- How loading an entry ends: there is nothing to load, or a migration, or the entry spoils the list. -/
inductive Ends (entry : ByteArray × Node) : Except DiscoveryError (Option Migration) → Prop
  | passed (nothing : ∀ name, IsSeen entry name → ¬HasContent entry.2) : Ends entry (.ok none)
  | held (m : Migration) (holds : Holds entry m) : Ends entry (.ok (some m))
  | spoiled (e : DiscoveryError) (spoils : Spoils entry) (other : IsNoDuplicate e) :
      Ends entry (.error e)

theorem loadOne_ends {entry : ByteArray × Node} {name : String} (path : String)
    (seen : IsSeen entry name) (named : name ≠ "") : Ends entry (loadOne path name entry.2) := by
  unfold loadOne
  rcases readOptional_ends path entry.2 upFile with
    ⟨up, reads, forward⟩ | ⟨f, e, present, fault, reads, other⟩
  case inr =>
    simp only [reads, bind, Except.bind]
    exact .spoiled e (.undecodable name seen upFile (.inl rfl) f present fault) other
  rcases readOptional_ends path entry.2 downFile with
    ⟨down, reads', reverse⟩ | ⟨f, e, present, fault, reads', other⟩
  case inr =>
    simp only [reads, reads', bind, Except.bind]
    exact .spoiled e (.undecodable name seen downFile (.inr rfl) f present fault) other
  have there {file : String} {part : Option String} (content : HasText entry.2 file part) :
      (entry.2.file? file).isSome = part.isSome := by
    rw [← Option.isSome_map (f := Node.readText), content, Option.isSome_map]
  have some_file : HasContent entry.2 ↔ up.isSome = true ∨ down.isSome = true :=
    or_congr (by rw [there forward]) (by rw [there reverse])
  simp only [reads, reads', bind, Except.bind]
  cases nothing : up.isNone && down.isNone with
  | true =>
      rw [Bool.and_eq_true, Option.isNone_iff_eq_none, Option.isNone_iff_eq_none] at nothing
      refine .passed fun _ _ content => ?_
      rw [some_file, nothing.1, nothing.2] at content
      simp at content
  | false =>
      have content : HasContent entry.2 := by
        rw [some_file]
        cases up <;> cases down <;> simp_all
      simp only [Bool.false_eq_true, if_false]
      cases valid : MigrationId.ofText? name with
      | some id =>
          have text := MigrationId.ofText?_eq_some valid
          exact .held _ ⟨text.symm ▸ seen, content, ⟨up, forward, rfl⟩, ⟨down, reverse, rfl⟩⟩
      | none =>
          refine .spoiled _ (.blanks name seen content fun trimmed => ?_)
            fun _ same => DiscoveryError.noConfusion same
          rw [MigrationId.ofText?, dif_pos ⟨named, trimmed⟩] at valid
          cases valid

/-- A root as migrations can be looked for under: names of entries are not empty, none stands twice, and
    those of directories are texts. -/
structure IsRoot (entries : List (ByteArray × Node)) : Prop where
  distinct : (entries.map Prod.fst).Nodup
  named : ∀ entry ∈ entries, entry.1 ≠ .empty
  texts : ∀ entry ∈ entries, entry.2.isDirectory = true → ∃ name : String, entry.1 = name.toUTF8

theorem loadEntry_of_seen {entry : ByteArray × Node} {name : String} (path : String)
    (seen : IsSeen entry name) :
    loadEntry path entry = loadOne (Path.join path name) name entry.2 := by
  simp only [loadEntry, seen.isDirectory, seen.named, EmbeddedUnit.fromUTF8?_toUTF8, seen.visible,
    Bool.not_true, Bool.false_eq_true, if_false]

theorem IsRoot.loadEntry_ends {entries : List (ByteArray × Node)} (h : IsRoot entries) (path : String)
    {entry : ByteArray × Node} (inside : entry ∈ entries) : Ends entry (loadEntry path entry) := by
  by_cases seen : ∃ name, IsSeen entry name
  · obtain ⟨name, seen⟩ := seen
    rw [loadEntry_of_seen path seen]
    refine loadOne_ends _ seen fun empty => h.named entry inside ?_
    rw [seen.named, empty]
    rfl
  · have passed : loadEntry path entry = .ok none := by
      unfold loadEntry
      cases kind : entry.2.isDirectory with
      | false => rfl
      | true =>
          obtain ⟨name, named⟩ := h.texts entry inside kind
          cases visible : isHidden name with
          | false => exact absurd ⟨name, kind, named, visible⟩ seen
          | true =>
              simp only [named, EmbeddedUnit.fromUTF8?_toUTF8, visible, Bool.not_true,
                Bool.false_eq_true, if_false, if_true]
    rw [passed]
    exact .passed fun name visible => absurd ⟨name, visible⟩ seen

/-- What comes of the results of loading entries one by one. -/
def collect (results : List (Except DiscoveryError (Option Migration))) :
    Except DiscoveryError (List Migration) := do
  let found ← results.mapM id
  inOrder (found.filterMap id)

theorem listEntries_eq (path : String) (entries : List (ByteArray × Node)) :
    listEntries path entries = collect (entries.map (loadEntry path)) := by
  rw [collect, List.mapM_map]
  rfl

theorem collect_eq_ok {results : List (Except DiscoveryError (Option Migration))}
    {listed : List Migration} : collect results = .ok listed ↔
      ∃ found, results.mapM id = .ok found ∧ inOrder (found.filterMap id) = .ok listed := by
  unfold collect
  cases results.mapM id with
  | error e => simp [bind, Except.bind]
  | ok found => simp [bind, Except.bind]

/-- The order of the results makes no difference to the list. -/
theorem collect_of_perm {results results' : List (Except DiscoveryError (Option Migration))}
    (perm : results'.Perm results) (listed : List Migration) :
    collect results' = .ok listed ↔ collect results = .ok listed := by
  have carried {one two : List (Except DiscoveryError (Option Migration))} (perm : two.Perm one)
      (ok : collect one = .ok listed) : collect two = .ok listed := by
    obtain ⟨found, loaded, ordered⟩ := collect_eq_ok.mp ok
    obtain ⟨found', loaded', same⟩ := mapM_of_perm perm loaded
    exact collect_eq_ok.mpr ⟨found', loaded', (inOrder_of_perm (same.filterMap id)).trans ordered⟩
  exact ⟨carried perm.symm, carried perm⟩

/-- Migrations in ascending order for exactly the directories below a root that are looked into
    (`IsSeen`) and have one of the two files, one for each. -/
structure Lists (entries : List (ByteArray × Node)) (listed : List Migration) : Prop where
  ascending : listed.Pairwise fun a b => a.id.bytes < b.id.bytes
  each : ∀ entry ∈ entries, ∀ name, IsSeen entry name → HasContent entry.2 →
    ∃! m, m ∈ listed ∧ Holds entry m
  only : ∀ m ∈ listed, ∃ entry ∈ entries, Holds entry m

section
variable {entries : List (ByteArray × Node)} {found : List (Option Migration)}

theorem IsRoot.ends_of_loaded {path : String} (h : IsRoot entries)
    (loaded : entries.mapM (loadEntry path) = .ok found) :
    List.Forall₂ (fun entry m? => Ends entry (.ok m?)) entries found := by
  have pairs := (List.forall₂_and_left _ _).mpr
    ⟨fun _ inside => h.loadEntry_ends path inside, forall₂_of_mapM_ok loaded⟩
  exact pairs.imp fun _ _ ⟨ends, ok⟩ => ok ▸ ends

theorem distinct_of_ends (distinct : (entries.map Prod.fst).Nodup)
    (ends : List.Forall₂ (fun entry m? => Ends entry (.ok m?)) entries found) :
    (idsOf (found.filterMap id)).Nodup := by
  have names : ((idsOf (found.filterMap id)).map fun id => id.text.toUTF8).Sublist
      (entries.map Prod.fst) := by
    clear distinct
    induction ends with
    | nil => exact .slnil
    | cons first _ ih =>
        cases first with
        | passed _ => exact ih.cons _
        | held m holds =>
            rw [List.map_cons, holds.seen.named]
            exact ih.cons_cons _
  exact (names.nodup distinct).of_map _

theorem lists_of_ends (ends : List.Forall₂ (fun entry m? => Ends entry (.ok m?)) entries found)
    {listed : List Migration} (ordered : inOrder (found.filterMap id) = .ok listed)
    (perm : listed.Perm (found.filterMap id)) : Lists entries listed := by
  have ascending := ascending_of_inOrder ordered
  have known (m : Migration) : m ∈ listed ↔ some m ∈ found := by
    rw [perm.mem_iff, List.mem_filterMap]
    simp only [id_eq, exists_eq_right]
  obtain ⟨of_entry, of_found⟩ := members_of_forall₂ ends
  refine ⟨ascending.imp MigrationId.bytes_lt_iff.mpr, fun entry inside name seen content => ?_,
    fun m inside => ?_⟩
  · obtain ⟨m?, among, end_⟩ := of_entry entry inside
    cases end_ with
    | passed nothing => exact absurd content (nothing name seen)
    | held m holds =>
        refine ⟨m, ⟨(known m).mpr among, holds⟩, fun other ⟨also, holds'⟩ => ?_⟩
        have same : other.id = m.id := MigrationId.ext_text (holds'.seen.unique holds.seen)
        exact List.inj_on_of_nodup_map ascending.distinct also ((known m).mpr among) same
  · obtain ⟨entry, among, end_⟩ := of_found (some m) ((known m).mp inside)
    cases end_ with
    | held _ holds => exact ⟨entry, among, holds⟩

end

/-- How discovery ends: with the migrations of all directories, or because one of the entries is in the
    way. -/
inductive DiscoveryEnds (entries : List (ByteArray × Node)) :
    Except DiscoveryError (List Migration) → Prop
  | listed (listed : List Migration) (clear : ∀ entry ∈ entries, ¬Spoils entry)
      (right : Lists entries listed) : DiscoveryEnds entries (.ok listed)
  | spoiled (e : DiscoveryError) (entry : ByteArray × Node) (inside : entry ∈ entries)
      (spoils : Spoils entry) (other : IsNoDuplicate e) : DiscoveryEnds entries (.error e)

theorem IsRoot.listEntries_ends {entries : List (ByteArray × Node)} (h : IsRoot entries)
    (path : String) : DiscoveryEnds entries (listEntries path entries) := by
  unfold listEntries
  cases loaded : entries.mapM (loadEntry path) with
  | error e =>
      obtain ⟨entry, inside, fails⟩ := exists_of_mapM_error loaded
      have ends := h.loadEntry_ends path inside
      rw [fails] at ends
      cases ends with
      | spoiled _ spoils other => exact .spoiled e entry inside spoils other
  | ok found =>
      have ends := h.ends_of_loaded loaded
      obtain ⟨listed, ordered, perm⟩ := inOrder_of_distinct (distinct_of_ends h.distinct ends)
      change DiscoveryEnds entries (inOrder (found.filterMap id))
      rw [ordered]
      refine .listed listed (fun entry inside spoils => ?_) (lists_of_ends ends ordered perm)
      obtain ⟨m?, -, end_⟩ := (members_of_forall₂ ends).1 entry inside
      cases end_ with
      | passed nothing =>
          obtain ⟨name, seen, content⟩ := spoils.seen
          exact nothing name seen content
      | held m holds => exact holds.not_spoils spoils

namespace DiscoveryEnds

variable {entries : List (ByteArray × Node)} {result : Except DiscoveryError (List Migration)}

theorem fails_iff (h : DiscoveryEnds entries result) :
    (∃ e, result = .error e) ↔ ∃ entry ∈ entries, Spoils entry := by
  cases h with
  | listed listed clear _ =>
      refine iff_of_false ?_ fun ⟨entry, inside, spoils⟩ => clear entry inside spoils
      rintro ⟨e, failed⟩
      cases failed
  | spoiled e entry inside spoils _ => exact iff_of_true ⟨e, rfl⟩ ⟨entry, inside, spoils⟩

theorem ne_duplicate (h : DiscoveryEnds entries result) (id : MigrationId) :
    result ≠ .error (.duplicateId id) := by
  cases h with
  | listed => nofun
  | spoiled e _ _ _ other => exact fun same => other id (Except.error.inj same)

theorem lists (h : DiscoveryEnds entries result) {listed : List Migration} (ok : result = .ok listed) :
    Lists entries listed := by
  subst ok
  cases h with
  | listed _ _ right => exact right

end DiscoveryEnds

theorem readOptional_relisted {n n' : Node} (same : n.Relisted n') (path file : String) :
    readOptional path n' file = readOptional path n file := by
  have child := same.child? file.toUTF8
  unfold readOptional
  generalize n.child? file.toUTF8 = one at child
  generalize n'.child? file.toUTF8 = two at child
  cases child with
  | none => rfl
  | some inner => simp only [inner.isDirectory_eq, inner.readText_eq]

theorem loadEntry_relisted {n n' : Node} (same : n.Relisted n') (path : String) (name : ByteArray) :
    loadEntry path (name, n') = loadEntry path (name, n) := by
  simp only [loadEntry, loadOne, same.isDirectory_eq, readOptional_relisted same]

/-- The results of loading the entries of a directory, for `collect`. -/
def results (path : String) (n : Node) : List (Except DiscoveryError (Option Migration)) :=
  (n.entries?.getD []).map (loadEntry path)

theorem results_relisted {n n' : Node} (same : n.Relisted n') (path : String) :
    (results path n').Perm (results path n) := by
  induction same with
  | refl => exact .refl _
  | reorder _ perm => exact (perm.map (loadEntry path)).symm
  | within before name inner after =>
      simp only [results, Node.entries?, Option.getD_some, List.map_append, List.map_cons,
        loadEntry_relisted inner]
      exact .refl _
  | trans _ _ ih ih' => exact ih'.trans ih

theorem list_of_found {tree : FileTree} {root : String} {n : Node} (place : tree.find? root = some n)
    (directory : n.isDirectory = true) :
    (Source.directory tree root).list = collect (results root n) := by
  obtain ⟨entries, inside⟩ := Option.isSome_iff_exists.mp directory
  simp only [Source.list, MigrationDirectory.list, place, Option.bind_some, inside, results,
    Option.getD_some, listEntries_eq]

/-- What is discovered below a root depends on the files and not on listing orders. Discovery fails
    exactly if an entry `Spoils` it: a directory that is looked into has a file that is no text, or has a
    migration and blanks at the ends of its name, and never for an id that is there twice. Otherwise each
    directory with one of the files gives one migration. -/
theorem discovery_ignores_order {tree : FileTree} {root : String}
    {entries : List (ByteArray × Node)} (place : tree.find? root = some (.directory entries))
    (proper : IsRoot entries) :
    ((∃ e, (Source.directory tree root).list = .error e) ↔ ∃ entry ∈ entries, Spoils entry) ∧
    (∀ id, (Source.directory tree root).list ≠ .error (.duplicateId id)) ∧
    (∀ listed, (Source.directory tree root).list = .ok listed → Lists entries listed) ∧
    ∀ (tree' : FileTree) (n : Node), tree'.find? root = some n → (Node.directory entries).Relisted n →
      ∀ listed, (Source.directory tree' root).list = .ok listed ↔
        (Source.directory tree root).list = .ok listed := by
  have start : (Source.directory tree root).list = collect (results root (.directory entries)) :=
    list_of_found place rfl
  have ends : DiscoveryEnds entries (Source.directory tree root).list := by
    rw [start, results, Node.entries?, Option.getD_some, ← listEntries_eq]
    exact proper.listEntries_ends root
  refine ⟨ends.fails_iff, ends.ne_duplicate, fun _ ok => ends.lists ok,
    fun tree' n place' same listed => ?_⟩
  rw [start, list_of_found place' same.isDirectory_eq]
  exact collect_of_perm (results_relisted same root) listed

/-- Two migrations among files, a hidden and an empty directory, and a directory in the place of a file,
    listed in one order and in another. -/
theorem discovery_ignores_order_mixed :
    let held : List (ByteArray × Node) :=
      [("up.sql".toUTF8, .file "a".toUTF8), ("down.sql".toUTF8, .file "b".toUTF8)]
    let before : List (ByteArray × Node) := [("002".toUTF8, .directory
        [("up.sql".toUTF8, .directory []), ("down.sql".toUTF8, .file "c".toUTF8)]),
      ("README".toUTF8, .file "d".toUTF8)]
    let after : List (ByteArray × Node) := [(".git".toUTF8, .directory held), ("003".toUTF8, .directory [])]
    let entries := before ++ ("001".toUTF8, .directory held) :: after
    let entries' := after ++ ("001".toUTF8, .directory held.reverse) :: before
    let first : Migration := ⟨⟨"001", by decide⟩, none, .sql "a", some (.sql "b")⟩
    let second : Migration := ⟨⟨"002", by decide⟩, none, .sql "", some (.sql "c")⟩
    let tree : FileTree := ⟨.directory [("m".toUTF8, .directory entries)], "/"⟩
    let tree' : FileTree := ⟨.directory [("m".toUTF8, .directory entries')], "/"⟩
    (tree.find? "m" = some (.directory entries) ∧ IsRoot entries ∧
      (Node.directory entries).Relisted (.directory entries')) ∧
    (Source.directory tree' "m").list = .ok [first, second] ∧ Lists entries [first, second] ∧
    ∀ entry ∈ entries, ¬Spoils entry := by
  intro held before after entries entries' first second tree tree'
  have place : tree.find? "m" = some (.directory entries) := by
    dsimp only [tree, entries, before, after, held]
    rfl
  have place' : tree'.find? "m" = some (.directory entries') := by
    dsimp only [tree', entries', before, after, held]
    rfl
  have proper : IsRoot entries := by
    refine ⟨by decide, by decide, fun entry inside _ => ?_⟩
    simp only [entries, before, after, List.cons_append, List.nil_append, List.mem_cons,
      List.not_mem_nil, or_false] at inside
    rcases inside with rfl | rfl | rfl | rfl | rfl
    exacts [⟨"002", rfl⟩, ⟨"README", rfl⟩, ⟨"001", rfl⟩, ⟨".git", rfl⟩, ⟨"003", rfl⟩]
  have relisted : (Node.directory entries).Relisted (.directory entries') :=
    (Node.Relisted.within before _ (.reorder (by decide) (List.reverse_perm held).symm) after).trans
      (.reorder (by decide) (List.perm_append_comm.trans List.perm_middle.symm))
  have listed : (Source.directory tree "m").list = .ok [first, second] := by
    rw [list_of_found place rfl]
    refine collect_eq_ok.mpr ⟨[some second, none, some first, none, none], ?_, ?_⟩
    · dsimp only [entries, before, after, held]
      rfl
    · calc inOrder [second, first]
          = inOrder [first, second] := inOrder_of_perm (.swap first second [])
        _ = .ok [first, second] := inOrder_of_ascending (by decide)
  obtain ⟨fails, -, lists, any⟩ := discovery_ignores_order place proper
  refine ⟨⟨place, proper, relisted⟩, (any tree' _ place' relisted _).mpr listed, lists _ listed, ?_⟩
  intro entry inside spoils
  obtain ⟨e, failed⟩ := fails.mpr ⟨entry, inside, spoils⟩
  rw [listed] at failed
  cases failed

end MigrationDirectory

end SchemaMigration
