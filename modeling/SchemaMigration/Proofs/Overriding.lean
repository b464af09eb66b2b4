import SchemaMigration.Cli.Project

/-! # Overriding a configuration

Options take the place of what a configuration file says. The file has to be valid as it stands, also
where an option takes the place of what is wrong in it; and what comes of both has to be valid
(`Resolves`). So a file that is valid counts only for the values that no option gives.
-/

namespace SchemaMigration

theorem Config.validate_eq_ok {c : Config} : c.validate = .ok () ↔
    Text.isBlankText c.databasePath = false ∧ Text.isBlankText c.migrationsDir = false ∧
      isTableName c.trackingTable = true := by
  unfold validate fault?
  cases Text.isBlankText c.databasePath <;> cases Text.isBlankText c.migrationsDir <;>
    cases isTableName c.trackingTable <;> simp

namespace ConfigOverrides

variable {o : ConfigOverrides} {c c' : Config}

/-- Each value that is given would do in a valid configuration. -/
structure AreValid (o : ConfigOverrides) : Prop where
  database : ∀ path, o.database = some path → Text.isBlankText path = false
  migrationsDir : ∀ dir, o.migrationsDir = some dir → Text.isBlankText dir = false
  trackingTable : ∀ table, o.trackingTable = some table → isTableName table = true

/-- Two configurations have the same values wherever none is given. -/
structure AgreeElsewhere (o : ConfigOverrides) (c c' : Config) : Prop where
  databasePath : o.database = none → c.databasePath = c'.databasePath
  migrationsDir : o.migrationsDir = none → c.migrationsDir = c'.migrationsDir
  trackingTable : o.trackingTable = none → c.trackingTable = c'.trackingTable

theorem getD_congr {α : Type} {given : Option α} {a b : α} (same : given = none → a = b) :
    given.getD a = given.getD b := by
  cases given with
  | none => exact same rfl
  | some _ => rfl

theorem AgreeElsewhere.apply_eq (h : AgreeElsewhere o c c') : o.apply c = o.apply c' := by
  simp only [apply, getD_congr h.databasePath, getD_congr h.migrationsDir, getD_congr h.trackingTable]

theorem getD_passes {α : Type} (test : α → Prop) (given : Option α) {a : α} (passes : test a) :
    test (given.getD a) ↔ ∀ b, given = some b → test b := by
  cases given with
  | none => simp [passes]
  | some b => simp

/-- With a valid configuration, it depends on the given values alone whether the result is valid. -/
theorem validate_apply (valid : c.validate = .ok ()) :
    (o.apply c).validate = .ok () ↔ o.AreValid := by
  obtain ⟨path, dir, table⟩ := Config.validate_eq_ok.mp valid
  have database := getD_passes (Text.isBlankText · = false) o.database path
  have migrationsDir := getD_passes (Text.isBlankText · = false) o.migrationsDir dir
  have trackingTable := getD_passes (isTableName · = true) o.trackingTable table
  rw [Config.validate_eq_ok]
  constructor
  · rintro ⟨path', dir', table'⟩
    exact ⟨database.mp path', migrationsDir.mp dir', trackingTable.mp table'⟩
  · intro h
    exact ⟨database.mpr h.database, migrationsDir.mpr h.migrationsDir, trackingTable.mpr h.trackingTable⟩

end ConfigOverrides

theorem Config.load_of_reads {t : FileTree} {path text : String} {c : Config}
    (readable : t.readText path = .ok text) (reads : read text = .ok c) :
    load t path = c.validate.map fun _ => c := by
  have present : t.has path = true := by
    unfold FileTree.readText at readable
    unfold FileTree.has
    cases found : t.find? path with
    | none => simp [found] at readable
    | some _ => rfl
  simp only [load, present, readable, Bool.not_true, Bool.false_eq_true, if_false]
  change (do let config ← (read text).mapError _; config.validate; return config) = _
  rw [reads]
  rfl

theorem Config.standard_valid : standard.validate = .ok () :=
  validate_eq_ok.mpr (by decide)

namespace Cli.GlobalOptions

/-- The path of the configuration file: the one that the options name, or else the one in the project
    directory, if there is one. -/
def configFile? (o : GlobalOptions) (t : FileTree) : Option String :=
  o.config <|> Config.fileIn? t o.projectDir

/-- What is done when the configuration file is read. -/
def loading (o : GlobalOptions) : String :=
  if o.config.isSome then "Failed to load configuration file" else "Failed to load project configuration"

/-- A configuration is what the configuration file holds, valid or not, or the standard one where there
    is no file. -/
inductive IsWritten (o : GlobalOptions) (t : FileTree) : Config → Prop
  | held (path text : String) (c : Config) (place : o.configFile? t = some path)
      (readable : t.readText path = .ok text) (reads : Config.read text = .ok c) : IsWritten o t c
  | absent (nowhere : o.configFile? t = none) : IsWritten o t .standard

/-- How a configuration is resolved from what is written and what the options give. -/
inductive Resolves (o : GlobalOptions) (c : Config) : Except Failure Config → Prop
  | unsound (e : ConfigError) (wrong : c.validate = .error e) :
      Resolves o c (.error (failedWhile o.loading e))
  | refused (sound : c.validate = .ok ()) (e : ConfigError)
      (wrong : (o.overrides.apply c).validate = .error e) :
      Resolves o c (.error (failedWhile "Invalid configuration" e))
  | merged (sound : c.validate = .ok ()) (valid : (o.overrides.apply c).validate = .ok ()) :
      Resolves o c (.ok (o.overrides.apply c))

variable {o : GlobalOptions} {t : FileTree} {c : Config}

theorem writtenConfig_eq (written : o.IsWritten t c) :
    o.writtenConfig t = (c.validate.map fun _ => c).mapError (failedWhile o.loading) := by
  unfold writtenConfig loading
  cases written with
  | held path text c place readable reads =>
      rw [← Config.load_of_reads readable reads]
      cases named : o.config with
      | some other =>
          obtain rfl : other = path := by simpa [configFile?, named] using place
          rfl
      | none =>
          have found : Config.fileIn? t o.projectDir = some path := by
            simpa [configFile?, named] using place
          simp only [Config.loadOrStandard, found]
          rfl
  | absent nowhere =>
      obtain ⟨named, missing⟩ : o.config = none ∧ Config.fileIn? t o.projectDir = none := by
        simpa [configFile?] using nowhere
      simp only [named, Config.loadOrStandard, missing, Config.standard_valid]
      rfl

theorem resolve_ends (written : o.IsWritten t c) : Resolves o c (o.resolve t) := by
  unfold resolve
  rw [writtenConfig_eq written]
  cases sound : c.validate with
  | error e => exact .unsound e sound
  | ok _ =>
      change Resolves o c (do
        (o.overrides.apply c).validate.mapError (failedWhile "Invalid configuration")
        return o.overrides.apply c)
      cases valid : (o.overrides.apply c).validate with
      | error e => exact .refused sound e valid
      | ok _ => exact .merged sound valid

namespace Resolves

variable {result : Except Failure Config}

theorem succeeds_iff (h : Resolves o c result) : (∃ config, result = .ok config) ↔
    c.validate = .ok () ∧ (o.overrides.apply c).validate = .ok () := by
  cases h with
  | unsound e wrong => simp [wrong]
  | refused sound e wrong => simp [wrong]
  | merged sound valid => simp [sound, valid]

theorem eq_merged (h : Resolves o c result) {config : Config} (ok : result = .ok config) :
    config = o.overrides.apply c := by
  subst ok
  cases h with
  | merged => rfl

theorem eq_unsound (h : Resolves o c result) {e : ConfigError} (wrong : c.validate = .error e) :
    result = .error (failedWhile o.loading e) := by
  cases h with
  | unsound e' wrong' => rw [Except.error.inj (wrong'.symm.trans wrong)]
  | refused sound => cases sound.symm.trans wrong
  | merged sound => cases sound.symm.trans wrong

theorem eq_refused (h : Resolves o c result) {e : ConfigError} (sound : c.validate = .ok ())
    (wrong : (o.overrides.apply c).validate = .error e) :
    result = .error (failedWhile "Invalid configuration" e) := by
  cases h with
  | unsound e' unsound => cases sound.symm.trans unsound
  | refused _ e' wrong' => rw [Except.error.inj (wrong'.symm.trans wrong)]
  | merged _ valid => cases valid.symm.trans wrong

theorem eq_of_merged {o' : GlobalOptions} {c' : Config} {result' : Except Failure Config}
    (h : Resolves o c result) (h' : Resolves o' c' result') (sound : c.validate = .ok ())
    (sound' : c'.validate = .ok ()) (same : o'.overrides.apply c' = o.overrides.apply c) :
    result' = result := by
  cases valid : (o.overrides.apply c).validate with
  | error e => rw [h.eq_refused sound valid, h'.eq_refused sound' (same ▸ valid)]
  | ok _ =>
      obtain ⟨config, ok⟩ := h.succeeds_iff.mpr ⟨sound, valid⟩
      obtain ⟨config', ok'⟩ := h'.succeeds_iff.mpr ⟨sound', same ▸ valid⟩
      rw [ok, ok', h.eq_merged ok, h'.eq_merged ok', same]

end Resolves

theorem resolve_succeeds_iff (written : o.IsWritten t c) (sound : c.validate = .ok ()) :
    (∃ config, o.resolve t = .ok config) ↔ o.overrides.AreValid := by
  rw [(resolve_ends written).succeeds_iff, ConfigOverrides.validate_apply sound]
  exact and_iff_right sound

/-- Options take the place of what is written, and the result has to be valid, but so has what is written:
    a fault in it is not made good by an option. Where it is valid, only the values that no option gives
    make a difference. -/
theorem resolve_merges (written : o.IsWritten t c) :
    ((∃ config, o.resolve t = .ok config) ↔
      c.validate = .ok () ∧ (o.overrides.apply c).validate = .ok ()) ∧
    (∀ config, o.resolve t = .ok config → config = o.overrides.apply c) ∧
    (∀ e, c.validate = .error e → o.resolve t = .error (failedWhile o.loading e)) ∧
    (∀ e, c.validate = .ok () → (o.overrides.apply c).validate = .error e →
      o.resolve t = .error (failedWhile "Invalid configuration" e)) ∧
    ∀ (o' : GlobalOptions) (t' : FileTree) (c' : Config), o'.IsWritten t' c' →
      o'.overrides = o.overrides → o.overrides.AgreeElsewhere c' c → c.validate = .ok () →
      c'.validate = .ok () → o'.resolve t' = o.resolve t := by
  have ends := resolve_ends written
  refine ⟨ends.succeeds_iff, fun _ ok => ends.eq_merged ok, fun _ wrong => ends.eq_unsound wrong,
    fun _ sound wrong => ends.eq_refused sound wrong, ?_⟩
  intro o' t' c' written' given agree sound sound'
  exact ends.eq_of_merged (resolve_ends written') sound sound' (given ▸ agree.apply_eq)

/-- Two files that differ in the tracking table, for which an option is given, and a project without a
    file. -/
theorem resolve_merges_table :
    let o : GlobalOptions := ⟨false, ".", none, none, none, some "ops.steps"⟩
    let project (files : List (ByteArray × Node)) : FileTree := ⟨.directory files, "/"⟩
    let tree := project [("strata.yml".toUTF8, .file "tracking_table: steps\n".toUTF8)]
    let config : Config := { trackingTable := "ops.steps" }
    (o.IsWritten tree { trackingTable := "steps" } ∧ o.resolve tree = .ok config) ∧
    o.IsWritten (project []) .standard ∧ o.resolve (project []) = .ok config := by
  intro o project tree config
  have place : o.configFile? tree = some "./strata.yml" := by
    dsimp only [o, tree, project]
    rfl
  have readable : tree.readText "./strata.yml" = .ok "tracking_table: steps\n" := by
    dsimp only [tree, project]
    rfl
  have written : o.IsWritten tree { trackingTable := "steps" } :=
    .held "./strata.yml" _ _ place readable rfl
  have nowhere : o.configFile? (project []) = none := by
    dsimp only [o, project]
    rfl
  have sound : Config.validate { trackingTable := "steps" } = .ok () :=
    Config.validate_eq_ok.mpr (by decide)
  have valid : config.validate = .ok () := Config.validate_eq_ok.mpr (by decide)
  obtain ⟨succeeds, merged, -, -, alike⟩ := resolve_merges written
  obtain ⟨found, resolved⟩ := succeeds.mpr ⟨sound, valid⟩
  have resolved : o.resolve tree = .ok config := by rw [resolved, merged found resolved]; rfl
  have agree : o.overrides.AgreeElsewhere .standard { trackingTable := "steps" } :=
    ⟨fun _ => rfl, fun _ => rfl, nofun⟩
  refine ⟨⟨written, resolved⟩, .absent nowhere, ?_⟩
  exact (alike o _ _ (.absent nowhere) rfl agree sound Config.standard_valid).trans resolved

/-- A file with a fault is refused although an option takes its place, and a file without it is not. -/
theorem fault_behind_option :
    let o : GlobalOptions := ⟨false, ".", none, none, none, some "ok"⟩
    let tree : FileTree :=
      ⟨.directory [("strata.yml".toUTF8, .file "tracking_table: 1abc\n".toUTF8)], "/"⟩
    let faulty : Config := { trackingTable := "1abc" }
    o.IsWritten tree faulty ∧ (o.overrides.apply faulty).validate = .ok () ∧
    o.resolve tree = .error (failedWhile "Failed to load project configuration"
      (.invalid (ConfigFault.trackingTable "1abc").message)) := by
  intro o tree faulty
  have place : o.configFile? tree = some "./strata.yml" := by
    dsimp only [o, tree]
    rfl
  have readable : tree.readText "./strata.yml" = .ok "tracking_table: 1abc\n" := by
    dsimp only [tree]
    rfl
  have written : o.IsWritten tree faulty := .held "./strata.yml" _ _ place readable rfl
  have wrong : faulty.validate = .error (.invalid (ConfigFault.trackingTable "1abc").message) := by
    dsimp only [faulty]
    rfl
  exact ⟨written, Config.validate_eq_ok.mpr (by decide), (resolve_ends written).eq_unsound wrong⟩

end Cli.GlobalOptions

end SchemaMigration
