import SchemaMigration.Proofs.Discovery

/-! # Ignored entries

Next to the directories of migrations a root may have files and hidden directories, and what is listed is
the same with and without them. There is one exception: the name of a directory is read as a text before it
is known to be hidden, so a hidden directory whose name is no text is in the way of every list.
-/

namespace SchemaMigration.MigrationDirectory

theorem head_utf8EncodeChar (c : Char) : (String.utf8EncodeChar c).head? = some 0x2E ↔ c = '.' := by
  have dot : c = '.' ↔ c.val.toNat = 0x2E := by
    rw [← Char.val_inj, ← UInt32.toNat_inj]
    rfl
  rw [dot]
  unfold String.utf8EncodeChar
  generalize c.val.toNat = n
  dsimp only
  split_ifs <;> simp only [List.head?_cons, Option.some.injEq, ← UInt8.toNat_inj, UInt8.toNat_ofNat',
    UInt8.reduceToNat, Nat.reducePow] <;> omega

theorem isHidden_iff (name : String) : isHidden name = true ↔ name.toUTF8.toList.head? = some 0x2E := by
  unfold isHidden
  rw [toUTF8_toList, beq_iff_eq]
  cases name.toList with
  | nil => simp
  | cons c rest =>
      obtain ⟨b, bs, first⟩ := List.exists_cons_of_ne_nil (utf8EncodeChar_ne_nil c)
      have head := head_utf8EncodeChar c
      rw [List.flatMap_cons, first] at *
      simpa using head.symm

theorem eq_toUTF8_of_fromUTF8? {bytes : ByteArray} {s : String}
    (h : String.fromUTF8? bytes = some s) : bytes = s.toUTF8 := by
  unfold String.fromUTF8? at h
  split at h
  · obtain rfl := Option.some.inj h
    rfl
  · cases h

/-- An entry that is not looked for: no directory, or one with a dot at the start of its name. -/
def IsIgnored (entry : ByteArray × Node) : Prop :=
  entry.2.isDirectory = false ∨ entry.1.toList.head? = some 0x2E

def IsNameless (entry : ByteArray × Node) : Prop :=
  entry.2.isDirectory = true ∧ String.fromUTF8? entry.1 = none

theorem loadEntry_of_ignored {entry : ByteArray × Node} (path : String) (ignored : IsIgnored entry)
    (named : ¬IsNameless entry) : loadEntry path entry = .ok none := by
  unfold loadEntry
  cases kind : entry.2.isDirectory with
  | false => rfl
  | true =>
      cases decoded : String.fromUTF8? entry.1 with
      | none => exact absurd ⟨kind, decoded⟩ named
      | some name =>
          have hidden : isHidden name = true := by
            rw [isHidden_iff, ← eq_toUTF8_of_fromUTF8? decoded]
            exact ignored.resolve_left (by simp [kind])
          simp only [hidden, Bool.not_true, Bool.false_eq_true, if_false, if_true]

theorem loadEntry_of_nameless {entry : ByteArray × Node} (path : String) (nameless : IsNameless entry) :
    loadEntry path entry =
      .error (.invalidId (Path.join path (Text.decodeLenient entry.1)) .directoryNotUtf8) := by
  simp only [loadEntry, nameless.1, nameless.2, Bool.not_true, Bool.false_eq_true, if_false]

theorem collect_pass (results : List (Except DiscoveryError (Option Migration))) :
    collect (.ok none :: results) = collect results := by
  unfold collect
  rw [List.mapM_cons]
  cases results.mapM id <;> rfl

theorem collect_fails {results : List (Except DiscoveryError (Option Migration))} {e : DiscoveryError}
    (inside : .error e ∈ results) : ∃ e', collect results = .error e' := by
  cases outcome : collect results with
  | error e' => exact ⟨e', rfl⟩
  | ok listed =>
      obtain ⟨found, loaded, -⟩ := collect_eq_ok.mp outcome
      obtain ⟨m?, -, same⟩ := (mem_of_mapM_ok loaded).2 _ inside
      cases same

/-- With an entry more below the root that is ignored, what is listed is the same, and nothing is listed
    with it that was not listed without it; unless the entry is a directory whose name is no text, for then
    nothing is listed. -/
theorem ignored_entries_irrelevant {tree tree' : FileTree} {root : String}
    {entries entries' : List (ByteArray × Node)} {entry : ByteArray × Node}
    (place : tree.find? root = some (.directory entries))
    (place' : tree'.find? root = some (.directory entries'))
    (added : entries'.Perm (entry :: entries)) (ignored : IsIgnored entry) :
    (¬IsNameless entry → ∀ listed, (Source.directory tree' root).list = .ok listed ↔
      (Source.directory tree root).list = .ok listed) ∧
    (IsNameless entry → ∃ e, (Source.directory tree' root).list = .error e) := by
  have loaded : (results root (.directory entries')).Perm
      (loadEntry root entry :: results root (.directory entries)) := added.map (loadEntry root)
  rw [list_of_found place rfl, list_of_found place' rfl]
  constructor
  · intro named listed
    rw [loadEntry_of_ignored root ignored named] at loaded
    rw [collect_of_perm loaded, collect_pass]
  · intro nameless
    rw [loadEntry_of_nameless root nameless] at loaded
    exact collect_fails (loaded.mem_iff.mpr List.mem_cons_self)

/-- A hidden directory with what looks like a migration, left out of the list, and a hidden directory whose
    name is no text, with which there is no list. -/
theorem ignored_entries_irrelevant_hidden :
    let entries : List (ByteArray × Node) :=
      [("001".toUTF8, .directory [("up.sql".toUTF8, .file "a".toUTF8)])]
    let git : ByteArray × Node := (".git".toUTF8, .directory [("up.sql".toUTF8, .file ⟨#[0xFF]⟩)])
    let nameless : ByteArray × Node := (⟨#[0x2E, 0xFF]⟩, .directory [])
    let tree : FileTree := ⟨.directory [("m".toUTF8, .directory (entries ++ [git]))], "/"⟩
    let tree' : FileTree := ⟨.directory [("m".toUTF8, .directory (nameless :: entries))], "/"⟩
    let first : Migration := ⟨⟨"001", by decide⟩, none, .sql "a", none⟩
    (IsIgnored git ∧ ¬IsNameless git ∧ (Source.directory tree "m").list = .ok [first]) ∧
    IsIgnored nameless ∧ IsNameless nameless ∧
      ∃ e, (Source.directory tree' "m").list = .error e := by
  intro entries git nameless tree tree' first
  let without : FileTree := ⟨.directory [("m".toUTF8, .directory entries)], "/"⟩
  have place : without.find? "m" = some (.directory entries) := by
    dsimp only [without, entries]
    rfl
  have placeGit : tree.find? "m" = some (.directory (entries ++ [git])) := by
    dsimp only [tree, entries, git]
    rfl
  have placeNameless : tree'.find? "m" = some (.directory (nameless :: entries)) := by
    dsimp only [tree', entries, nameless]
    rfl
  have listed : (Source.directory without "m").list = .ok [first] := by
    rw [list_of_found place rfl]
    exact collect_eq_ok.mpr ⟨[some first], rfl, inOrder_of_ascending (by decide)⟩
  have hidden : IsIgnored git := .inr ((isHidden_iff ".git").mp (by decide))
  have named : ¬IsNameless git := fun h => absurd h.2 (by decide)
  have dotted : IsIgnored nameless := .inr (by rw [toList_bytes]; rfl)
  have undecodable : IsNameless nameless := ⟨rfl, by decide⟩
  refine ⟨⟨hidden, named, ?_⟩, dotted, undecodable, ?_⟩
  · have added : (entries ++ [git]).Perm (git :: entries) := List.perm_append_comm
    exact ((ignored_entries_irrelevant place placeGit added hidden).1 named [first]).mpr listed
  · exact (ignored_entries_irrelevant place placeNameless (.refl _) dotted).2 undecodable

/-- A hidden directory keeps the one migration beside it from being listed, because its name is no text. -/
theorem hidden_directory_in_the_way :
    let migration : ByteArray × Node :=
      ("001".toUTF8, .directory [("up.sql".toUTF8, .file .empty)])
    let hidden : ByteArray × Node := (⟨#[0x2E, 0xFF]⟩, .directory [])
    let tree : FileTree := ⟨.directory [("migrations".toUTF8, .directory [migration])], "/"⟩
    let tree' : FileTree := ⟨.directory [("migrations".toUTF8, .directory [hidden, migration])], "/"⟩
    IsIgnored hidden ∧
    (Source.directory tree "migrations").list =
      .ok [⟨⟨"001", by decide⟩, none, .sql "", none⟩] ∧
    (Source.directory tree' "migrations").list =
      .error (.invalidId (Path.join "migrations" (Text.decodeLenient hidden.1)) .directoryNotUtf8) := by
  intro migration hidden tree tree'
  have place : tree.find? "migrations" = some (.directory [migration]) := by
    dsimp only [tree, migration]
    rfl
  have place' : tree'.find? "migrations" = some (.directory [hidden, migration]) := by
    dsimp only [tree', hidden, migration]
    rfl
  refine ⟨.inr (by rw [toList_bytes]; rfl), ?_, ?_⟩
  · rw [list_of_found place rfl]
    refine collect_eq_ok.mpr ⟨[some _], ?_, inOrder_of_ascending (by decide)⟩
    dsimp only [migration]
    rfl
  · have nameless : IsNameless hidden := ⟨rfl, by decide⟩
    have results_eq : results "migrations" (.directory [hidden, migration]) =
      [loadEntry "migrations" hidden, loadEntry "migrations" migration] := rfl
    rw [list_of_found place' rfl, results_eq, loadEntry_of_nameless _ nameless]
    rfl

end SchemaMigration.MigrationDirectory
