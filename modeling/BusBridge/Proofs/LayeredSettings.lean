import BusBridge.Proofs.WrittenChoices

/-!
# Settings from several sources

Sources of which each can be loaded on its own can be loaded together.  Every setting then has
the value that the highest of the sources that set it gives, and nothing else changes it.
-/

namespace BusBridge

namespace Settings

variable {first second : Settings} {key : Key} {given? : Option Entry}

/-- The setting is what an entry gives, or the default where there is no entry. -/
def Reads (settings : Settings) (key : Key) (given? : Option Entry) : Prop :=
  given?.getD (.text (default.value key)) = .text (settings.value key)

theorem Reads.value_eq (firstReads : first.Reads key given?)
    (secondReads : second.Reads key given?) : first.value key = second.value key :=
  Entry.text.inj (firstReads.symm.trans secondReads)

end Settings

namespace Layer

/-- Where a value is read by its name, the default stands for its own name. -/
theorem readEntry_eq_some_iff {α : Type} {read? : String → Option α} {name : α → String}
    (named : ∀ {text value}, read? text = some value ↔ text = name value) {default value : α}
    {given? : Option Entry} :
    readEntry read? default given? = some value ↔
      given?.getD (.text (name default)) = .text (name value) := by
  match given? with
  | none =>
      rw [readEntry, Option.getD_none, Entry.text.injEq, Option.some_inj]
      constructor
      · exact congrArg name
      · intro same
        exact Option.some.inj ((named.mpr rfl).symm.trans (named.mpr same))
  | some (.text text) =>
      rw [readEntry, Option.getD_some, Entry.text.injEq]
      exact named
  | some .other =>
      exact ⟨nofun, nofun⟩

/-- The settings that a layer gives, setting by setting. -/
theorem settings?_eq_some_iff {layer : Layer} {settings : Settings} :
    layer.settings? = some settings ↔ ∀ key, settings.Reads key (layer.setting? key) := by
  have bus := @readEntry_eq_some_iff _ BusKind.ofName? _ BusKind.choices.ofName?_eq_some_iff
    Settings.default.bus settings.bus layer.bus?
  have filter := @readEntry_eq_some_iff _ some id Option.some_inj Settings.default.logFilter
    settings.logFilter layer.logFilter?
  have format := @readEntry_eq_some_iff _ LogFormat.ofName? _
    LogFormat.choices.ofName?_eq_some_iff Settings.default.logFormat settings.logFormat
    layer.logFormat?
  have parts : layer.settings? = some settings ↔
      readEntry BusKind.ofName? Settings.default.bus layer.bus? = some settings.bus ∧
        readEntry some Settings.default.logFilter layer.logFilter? =
          some settings.logFilter ∧
        readEntry LogFormat.ofName? Settings.default.logFormat layer.logFormat? =
          some settings.logFormat := by
    simp only [settings?, Option.bind_eq_bind, Option.bind_eq_some_iff]
    constructor
    · rintro ⟨bus, busRead, filter, filterRead, format, formatRead, same⟩
      obtain rfl := Option.some.inj same
      exact ⟨busRead, filterRead, formatRead⟩
    · rintro ⟨busRead, filterRead, formatRead⟩
      exact ⟨_, busRead, _, filterRead, _, formatRead, rfl⟩
  rw [parts, bus, filter, format]
  constructor
  · rintro ⟨busSame, filterSame, formatSame⟩ key
    cases key
    · exact busSame
    · exact filterSame
    · exact formatSame
  · intro same
    exact ⟨same .bus, same .logFilter, same .logFormat⟩

end Layer

theorem Settings.ext_value {first second : Settings}
    (same : ∀ key, first.value key = second.value key) : first = second := by
  let layer : Layer := ⟨some (.text (first.value .bus)), some (.text (first.value .logFilter)),
    some (.text (first.value .logFormat))⟩
  have gives : layer.settings? = some first :=
    Layer.settings?_eq_some_iff.mpr fun key => by cases key <;> rfl
  have givesToo : layer.settings? = some second :=
    Layer.settings?_eq_some_iff.mpr fun key => by
      rw [Reads, ← same]
      cases key <;> rfl
  exact Option.some.inj (gives.symm.trans givesToo)

namespace ConfigFile

variable {first second : Surroundings}

/-- A file says the same whatever the environment is. -/
theorem loadFrom_congr (same : first.contents? = second.contents?) (fuel : Nat)
    (visited : List String) (path : String) :
    loadFrom first fuel visited path = loadFrom second fuel visited path := by
  have documents (path : String) : document? first path = document? second path := by
    rw [document?, document?, same]
  induction fuel generalizing visited path with
  | zero => rfl
  | succ fuel ih => simp only [loadFrom, documents, ih]

theorem loadRequired_congr (directory : first.directory = second.directory)
    (contents : first.contents? = second.contents?) (path : RawText) :
    loadRequired first path = loadRequired second path := by
  simp only [loadRequired, requiredPath, load, directory, loadFrom_congr contents]

theorem loadFirst_of_noFiles {surroundings : Surroundings}
    (noFiles : ∀ place, surroundings.contents? place = none) (paths : List String) :
    loadFirst surroundings paths = (none, []) := by
  induction paths with
  | nil => rfl
  | cons path paths ih => rw [loadFirst, noFiles, ih]

theorem gather_none {surroundings : Surroundings}
    (noFiles : ∀ place, surroundings.contents? place = none) :
    gather surroundings none = (.empty, []) := by
  rw [gather, discover, loadFirst_of_noFiles noFiles]

theorem gather_some_iff {surroundings : Surroundings} {path : RawText} {layer : Layer} :
    gather surroundings (some path) = (layer, []) ↔ loadRequired surroundings path = .ok layer := by
  rw [gather]
  cases loadRequired surroundings path <;> simp

theorem loadRequired_of_noFiles {surroundings : Surroundings}
    (noFiles : ∀ place, surroundings.contents? place = none) (path : RawText) (layer : Layer) :
    loadRequired surroundings path ≠ .ok layer := by
  have unreadable (place : String) : document? surroundings place = none := by
    rw [document?, noFiles]
    rfl
  intro loaded
  rw [loadRequired] at loaded
  split at loaded
  · rw [load, maxDepth, loadFrom, unreadable] at loaded
    split at loaded <;> cases loaded
  · cases loaded

end ConfigFile

theorem SettingsError.combine?_eq_none_iff {errors : List SettingsError} :
    SettingsError.combine? errors = none ↔ errors = [] := by
  unfold SettingsError.combine?
  split <;> simp_all

theorem Settings.mergeLayers_eq_iff {layer : Layer} {settings : Settings} :
    Settings.mergeLayers layer = (settings, []) ↔ layer.settings? = some settings := by
  unfold Settings.mergeLayers
  cases layer.settings? <;> simp

theorem Settings.loadFlags_eq_iff {words : List RawText} {given : Flags.Given} :
    Settings.loadFlags words = (given, []) ↔ Flags.read words = .ok given := by
  unfold Settings.loadFlags
  cases Flags.read words <;> simp

/-- The settings are loaded if nothing fails on the way. -/
theorem Settings.load_eq_ok_iff {surroundings : ConfigFile.Surroundings} {program : RawText}
    {words : List RawText} {settings : Settings} :
    Settings.load surroundings (program :: words) = .ok settings ↔
      ∃ given file, Flags.read words = .ok given ∧
        ConfigFile.gather surroundings given.configPath? = (file, []) ∧
        (given.layer.onTopOf
          ((Environment.layer surroundings.environment).onTopOf file)).settings? =
          some settings := by
  simp only [Settings.load, List.drop_one, List.tail_cons, ← Settings.loadFlags_eq_iff,
    ← Settings.mergeLayers_eq_iff, Prod.ext_iff]
  constructor
  · intro loaded
    split at loaded
    · cases loaded
    next noErrors =>
      have noErrors := SettingsError.combine?_eq_none_iff.mp noErrors
      rw [List.append_eq_nil_iff, List.append_eq_nil_iff, List.map_eq_nil_iff] at noErrors
      obtain ⟨⟨noFlagErrors, noFileErrors⟩, noMergeErrors⟩ := noErrors
      exact ⟨_, _, ⟨rfl, noFlagErrors⟩, ⟨rfl, noFileErrors⟩, Except.ok.inj loaded, noMergeErrors⟩
  · rintro ⟨given, file, ⟨rfl, noFlagErrors⟩, ⟨rfl, noFileErrors⟩, same, noMergeErrors⟩
    split
    next error failed =>
      rw [noFlagErrors, noFileErrors, noMergeErrors] at failed
      cases failed
    · exact congrArg Except.ok same

namespace Layer

@[simp]
theorem empty_onTopOf (layer : Layer) : empty.onTopOf layer = layer :=
  rfl

@[simp]
theorem onTopOf_empty (layer : Layer) : layer.onTopOf empty = layer := by
  simp [onTopOf, empty]

theorem setting?_onTopOf (upper lower : Layer) (key : Settings.Key) :
    (upper.onTopOf lower).setting? key = (upper.setting? key).or (lower.setting? key) := by
  cases key <;> rfl

end Layer

namespace Sources

variable {sources : Sources} {settings : Settings}

theorem load_only_flags (loads : (sources.only .flags).load = .ok settings) :
    ∃ given, Flags.read sources.flags = .ok given ∧ given.configPath? = none ∧
      given.layer.settings? = some settings := by
  obtain ⟨given, file, read, gathered, merged⟩ := Settings.load_eq_ok_iff.mp loads
  have noFiles : ∀ place, (sources.only .flags).surroundings.contents? place = none :=
    fun _ => rfl
  have pathless : given.configPath? = none := by
    cases named : given.configPath? with
    | none => rfl
    | some path =>
        rw [named] at gathered
        exact absurd (ConfigFile.gather_some_iff.mp gathered)
          (ConfigFile.loadRequired_of_noFiles noFiles path file)
  rw [pathless, ConfigFile.gather_none noFiles] at gathered
  obtain rfl := (Prod.mk.inj gathered).1
  have noVariables : Environment.layer (sources.only .flags).surroundings.environment = .empty :=
    rfl
  rw [noVariables, Layer.onTopOf_empty, Layer.onTopOf_empty] at merged
  exact ⟨given, read, pathless, merged⟩

theorem load_only_environment (loads : (sources.only .environment).load = .ok settings) :
    (Environment.layer sources.environment).settings? = some settings := by
  obtain ⟨given, file, read, gathered, merged⟩ := Settings.load_eq_ok_iff.mp loads
  obtain rfl := Except.ok.inj read
  have noFiles : ∀ place, (sources.only .environment).surroundings.contents? place = none :=
    fun _ => rfl
  rw [show (Flags.given _).configPath? = none from rfl, ConfigFile.gather_none noFiles] at gathered
  obtain rfl := (Prod.mk.inj gathered).1
  rw [Layer.onTopOf_empty] at merged
  exact merged

theorem load_only_file {file : NamedFile} (named : sources.file? = some file)
    (loads : (sources.only .file).load = .ok settings) :
    ∃ own layer, Flags.read file.words = .ok own ∧
      ConfigFile.loadRequired sources.surroundings file.path = .ok layer ∧
      layer.settings? = some settings := by
  have words : (sources.only .file).arguments = sources.program :: file.words := by
    simp [arguments, only, named]
  rw [load, words] at loads
  obtain ⟨own, layer, read, gathered, merged⟩ := Settings.load_eq_ok_iff.mp loads
  obtain rfl := Flags.given_of_named read
  have noVariables : Environment.layer (sources.only .file).surroundings.environment = .empty :=
    rfl
  rw [noVariables, Layer.empty_onTopOf, Layer.empty_onTopOf] at merged
  have contents : sources.surroundings.contents? =
      (sources.only .file).surroundings.contents? := rfl
  have directory : sources.surroundings.directory =
      (sources.only .file).surroundings.directory := rfl
  have same := ConfigFile.loadRequired_congr directory contents file.path
  exact ⟨_, layer, read, same.trans (ConfigFile.gather_some_iff.mp gathered), merged⟩

theorem load_only_noFile (unnamed : sources.file? = none)
    (loads : (sources.only .file).load = .ok settings) :
    Layer.empty.settings? = some settings := by
  have words : (sources.only .file).arguments = [sources.program] := by
    simp [arguments, only, unnamed]
  rw [load, words] at loads
  have noFiles : ∀ place, (sources.only .file).surroundings.contents? place = none := by
    simp [surroundings, only, unnamed]
  have defaults : Settings.load (sources.only .file).surroundings [sources.program] =
      .ok .default :=
    Settings.load_eq_ok_iff.mpr ⟨.nothing, .empty, rfl, ConfigFile.gather_none noFiles, rfl⟩
  exact congrArg some (Except.ok.inj (defaults.symm.trans loads))

/-- A source that can be loaded on its own says something, and nothing else is loaded. -/
theorem exists_layer {source : Source} (loads : (sources.only source).load = .ok settings) :
    ∃ layer, sources.layer? source = some layer ∧ layer.settings? = some settings := by
  cases source with
  | file =>
      cases named : sources.file? with
      | none => exact ⟨.empty, by rw [layer?, named], load_only_noFile named loads⟩
      | some file =>
          obtain ⟨own, layer, -, loaded, gives⟩ := load_only_file named loads
          refine ⟨layer, ?_, gives⟩
          rw [layer?, named]
          dsimp only
          rw [loaded]
          rfl
  | environment => exact ⟨_, rfl, load_only_environment loads⟩
  | flags =>
      obtain ⟨given, read, -, gives⟩ := load_only_flags loads
      refine ⟨given.layer, ?_, gives⟩
      rw [layer?, read]
      rfl

section Together

variable {alone : Source → Settings}

/-- All sources together give what the flags give on top of the environment, on top of the
file. -/
theorem load_of_layers {layers : Source → Layer}
    (loads : sources.LoadAlone alone)
    (said : ∀ source, sources.layer? source = some (layers source))
    (merged : ((layers .flags).onTopOf
      ((layers .environment).onTopOf (layers .file))).settings? = some settings) :
    sources.load = .ok settings := by
  obtain ⟨given, read, pathless, -⟩ := load_only_flags (loads .flags)
  have flags : layers .flags = given.layer := by
    have said := said .flags
    rw [layer?, read] at said
    exact (Option.some.inj said).symm
  have environment : layers .environment = Environment.layer sources.environment :=
    (Option.some.inj (said .environment)).symm
  have fileSaid := said .file
  rw [layer?] at fileSaid
  rw [flags, environment] at merged
  cases named : sources.file? with
  | none =>
      rw [named] at fileSaid
      obtain noFile := Option.some.inj fileSaid
      have noFiles : ∀ place, sources.surroundings.contents? place = none := by
        simp [surroundings, named]
      have words : sources.arguments = sources.program :: sources.flags := by
        simp [arguments, named]
      have gathered : ConfigFile.gather sources.surroundings given.configPath? =
          (layers .file, []) := by
        rw [pathless, ConfigFile.gather_none noFiles, ← noFile]
      rw [load, words]
      exact Settings.load_eq_ok_iff.mpr ⟨given, layers .file, read, gathered, merged⟩
  | some file =>
      obtain ⟨own, layer, ownRead, loaded, -⟩ := load_only_file named (loads .file)
      rw [named] at fileSaid
      dsimp only at fileSaid
      rw [loaded] at fileSaid
      obtain fileLayer := Option.some.inj fileSaid
      have words : sources.arguments = sources.program :: (file.words ++ sources.flags) := by
        simp [arguments, named]
      have wholeRead := Flags.read_append_named ownRead read pathless
      have gathered : ConfigFile.gather sources.surroundings (some file.path) =
          (layers .file, []) := by
        rw [ConfigFile.gather_some_iff, ← fileLayer]
        exact loaded
      rw [load, words]
      exact Settings.load_eq_ok_iff.mpr ⟨_, layers .file, wholeRead, gathered, merged⟩

/-- What a source says about a setting is what it gives on its own. -/
theorem reads_setting? (loads : sources.LoadAlone alone) (source : Source)
    (key : Settings.Key) : (alone source).Reads key (sources.setting? source key) := by
  obtain ⟨layer, said, gives⟩ := exists_layer (loads source)
  rw [setting?, said]
  exact Layer.settings?_eq_some_iff.mp gives key

/-- What the highest source that sets a setting says about it. -/
def topmost? (sources : Sources) (key : Settings.Key) : Option Entry :=
  (sources.setting? .flags key).or
    ((sources.setting? .environment key).or (sources.setting? .file key))

theorem load_of_topmost (loads : sources.LoadAlone alone)
    (reads : ∀ key, settings.Reads key (sources.topmost? key)) :
    sources.load = .ok settings := by
  let layers (source : Source) : Layer := (sources.layer? source).getD .empty
  have said (source : Source) : sources.layer? source = some (layers source) := by
    obtain ⟨layer, said, -⟩ := exists_layer (loads source)
    simp only [layers, said, Option.getD_some]
  have entries (source : Source) (key : Settings.Key) :
      (layers source).setting? key = sources.setting? source key := by
    rw [setting?, said, Option.bind_some]
  refine load_of_layers loads said (Layer.settings?_eq_some_iff.mpr fun key => ?_)
  rw [Layer.setting?_onTopOf, Layer.setting?_onTopOf, entries, entries, entries]
  exact reads key

variable {source : Source} {key : Settings.Key}

theorem not_sets_iff : ¬sources.Sets source key ↔ sources.setting? source key = none :=
  Decidable.not_not

theorem topmost?_of_decides (decides : sources.Decides source key) :
    sources.topmost? key = sources.setting? source key := by
  obtain ⟨entry, said⟩ := Option.ne_none_iff_exists'.mp decides.sets
  have silent (higher : Source) (above : source.rank < higher.rank) :
      sources.setting? higher key = none :=
    not_sets_iff.mp fun sets => decides.highest ⟨higher, above, sets⟩
  cases source with
  | flags => rw [topmost?, said, Option.some_or]
  | environment => rw [topmost?, silent .flags (by decide), said, Option.none_or, Option.some_or]
  | file =>
      rw [topmost?, silent .flags (by decide), silent .environment (by decide), Option.none_or,
        Option.none_or]

theorem topmost?_eq_none (unset : ∀ source, ¬sources.Sets source key) :
    sources.topmost? key = none := by
  have silent (source : Source) : sources.setting? source key = none :=
    not_sets_iff.mp (unset source)
  rw [topmost?, silent, silent, silent]
  rfl

/-- Either no source sets a setting, or one that does is the highest. -/
theorem exists_decides (sources : Sources) (key : Settings.Key) :
    (∀ source, ¬sources.Sets source key) ∨ ∃ source, sources.Decides source key := by
  by_cases flags : sources.Sets .flags key
  · refine .inr ⟨.flags, flags, fun ⟨higher, above, _⟩ => ?_⟩
    cases higher <;> exact absurd above (by decide)
  by_cases environment : sources.Sets .environment key
  · refine .inr ⟨.environment, environment, fun ⟨higher, above, sets⟩ => ?_⟩
    cases higher with
    | flags => exact flags sets
    | environment => exact absurd above (by decide)
    | file => exact absurd above (by decide)
  by_cases file : sources.Sets .file key
  · refine .inr ⟨.file, file, fun ⟨higher, above, sets⟩ => ?_⟩
    cases higher with
    | flags => exact flags sets
    | environment => exact environment sets
    | file => exact absurd above (by decide)
  · refine .inl fun source => ?_
    cases source with
    | flags => exact flags
    | environment => exact environment
    | file => exact file

/-- What stands below a source that sets the setting does not count. -/
theorem topmost?_congr {other : Sources}
    (same : ∀ source, other.setting? source key = sources.setting? source key ∨
      sources.Overridden source key) :
    other.topmost? key = sources.topmost? key := by
  rcases sources.exists_decides key with unset | ⟨source, decides⟩
  · have agree (source : Source) : other.setting? source key = sources.setting? source key :=
      (same source).resolve_right fun ⟨higher, _, sets⟩ => unset higher sets
    rw [topmost?, topmost?, agree, agree, agree]
  · -- Nothing from this source upwards is overridden, so all that counts is the same.
    have agree (given : Source) (above : source.rank ≤ given.rank) :
        other.setting? given key = sources.setting? given key :=
      (same given).resolve_right fun ⟨higher, beyond, sets⟩ =>
        decides.highest ⟨higher, Nat.lt_of_le_of_lt above beyond, sets⟩
    have here := agree source (Nat.le_refl _)
    have decidesToo : other.Decides source key := by
      refine ⟨?_, fun ⟨higher, above, sets⟩ => decides.highest ⟨higher, above, ?_⟩⟩
      · rw [Sets, here]
        exact decides.sets
      · rwa [Sets, ← agree higher (Nat.le_of_lt above)]
    rw [topmost?_of_decides decidesToo, topmost?_of_decides decides, here]

/-- There are settings in which every setting has the value that counts. -/
theorem exists_settings (loads : sources.LoadAlone alone) :
    ∃ settings : Settings, ∀ key, settings.Reads key (sources.topmost? key) := by
  have each (key : Settings.Key) :
      ∃ settings : Settings, settings.Reads key (sources.topmost? key) := by
    rcases sources.exists_decides key with unset | ⟨source, decides⟩
    · exact ⟨.default, by rw [topmost?_eq_none unset]; rfl⟩
    · refine ⟨alone source, ?_⟩
      rw [topmost?_of_decides decides]
      exact reads_setting? loads source key
  obtain ⟨forBus, bus⟩ := each .bus
  obtain ⟨forFilter, filter⟩ := each .logFilter
  obtain ⟨forFormat, format⟩ := each .logFormat
  refine ⟨⟨forBus.bus, forFilter.logFilter, forFormat.logFormat⟩, fun key => ?_⟩
  cases key with
  | bus => exact bus
  | logFilter => exact filter
  | logFormat => exact format

end Together

section Written

variable {choices : Choices} {location : Location}

/-- Where choices are written down, each source says what was chosen for it. -/
theorem setting?_write {alone : Source → Settings}
    (loads : (choices.write location).LoadAlone alone) (source : Source) (key : Settings.Key) :
    (choices.write location).setting? source key =
      (choices source key).map (source.entryFor key) := by
  cases source with
  | file =>
      obtain ⟨own, layer, -, loaded, -⟩ := load_only_file rfl (loads .file)
      have said : (choices.write location).layer? .file =
          (ConfigFile.loadRequired (choices.write location).surroundings location.path).toOption :=
        rfl
      rw [setting?, said, loaded]
      exact Choices.setting?_file loaded key
  | environment => exact Choices.setting?_environment choices key
  | flags =>
      obtain ⟨given, read, -, -⟩ := load_only_flags (loads .flags)
      have read : Flags.read choices.flags = .ok given := read
      have said : (choices.write location).layer? .flags =
          (Flags.read choices.flags).toOption.map Flags.Given.layer :=
        rfl
      rw [setting?, said, read]
      exact Choices.setting?_flags read key

end Written

/-- Sources of which each can be loaded on its own can be loaded together.  Every setting has the
value that the highest source that sets it gives on its own, or its default where no source sets
it.  So what is said about one setting never changes another one, and what stands below a source
that sets the setting never changes anything.  Where choices were written down, a source says
what was chosen for it, and sets nothing else. -/
theorem highest_source_decides {alone : Source → Settings} (loads : sources.LoadAlone alone) :
    ∃ settings, sources.load = .ok settings ∧
      (∀ key source, sources.Decides source key →
        settings.value key = (alone source).value key) ∧
      (∀ key, (∀ source, ¬sources.Sets source key) →
        settings.value key = Settings.default.value key) ∧
      (∀ (other : Sources) (otherAlone : Source → Settings), other.LoadAlone otherAlone →
        ∃ changed, other.load = .ok changed ∧
          (∀ key, (∀ source, other.setting? source key = sources.setting? source key) →
            changed.value key = settings.value key) ∧
          ((∀ key source, other.setting? source key = sources.setting? source key ∨
              sources.Overridden source key) → changed = settings)) ∧
      ∀ (choices : Choices) (location : Location), sources = choices.write location →
        ∀ source key,
          sources.setting? source key = (choices source key).map (source.entryFor key) := by
  obtain ⟨settings, reads⟩ := exists_settings loads
  refine ⟨settings, load_of_topmost loads reads, ?_, ?_, ?_, ?_⟩
  · intro key source decides
    have counts := reads key
    rw [topmost?_of_decides decides] at counts
    exact counts.value_eq (reads_setting? loads source key)
  · intro key unset
    have counts := reads key
    rw [topmost?_eq_none unset] at counts
    exact (Entry.text.inj counts).symm
  · intro other otherAlone otherLoads
    obtain ⟨changed, otherReads⟩ := exists_settings otherLoads
    have sameValue (key : Settings.Key) (counts : other.topmost? key = sources.topmost? key) :
        changed.value key = settings.value key := by
      have changedReads := otherReads key
      rw [counts] at changedReads
      exact changedReads.value_eq (reads key)
    refine ⟨changed, load_of_topmost otherLoads otherReads, ?_, ?_⟩
    · exact fun key same => sameValue key (topmost?_congr fun source => .inl (same source))
    · exact fun same => Settings.ext_value fun key => sameValue key (topmost?_congr (same key))
  · rintro choices location rfl
    exact setting?_write loads

/-- The file gives two settings, the environment changes one of them, and a flag gives the third. -/
def mixedChoices : Choices
  | .file, .bus => some "session"
  | .file, .logFilter => some "debug"
  | .environment, .logFilter => some "trace"
  | .flags, .logFormat => some "JSON"
  | _, _ => none

def mixed : Sources :=
  mixedChoices.write ⟨.ofString "ndb", "/home", .ofString "ndb.toml", false⟩

def mixedAlone : Source → Settings
  | .file => ⟨.session, "debug", .compact⟩
  | .environment => ⟨.system, "trace", .compact⟩
  | .flags => ⟨.system, "warn", .json⟩

theorem loadAlone_mixed : mixed.LoadAlone mixedAlone := by
  intro source
  have loaded : (mixed.only source).load.toOption = some (mixedAlone source) := by
    cases source <;> decide +kernel
  cases loads : (mixed.only source).load with
  | error error =>
      rw [loads] at loaded
      cases loaded
  | ok settings =>
      rw [loads] at loaded
      exact congrArg Except.ok (Option.some.inj loaded)

theorem mixed_settings :
    mixed.LoadAlone mixedAlone ∧ mixed.load = .ok ⟨.session, "trace", .json⟩ := by
  obtain ⟨settings, loaded, decided, -⟩ := highest_source_decides loadAlone_mixed
  have bus := decided .bus .file (by decide +kernel)
  have filter := decided .logFilter .environment (by decide +kernel)
  have format := decided .logFormat .flags (by decide +kernel)
  have same : settings = ⟨.session, "trace", .json⟩ :=
    Settings.ext_value fun key => by
      cases key with
      | bus => exact bus
      | logFilter => exact filter
      | logFormat => exact format
  exact ⟨loadAlone_mixed, same ▸ loaded⟩

end Sources

end BusBridge
