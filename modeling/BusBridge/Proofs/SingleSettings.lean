import BusBridge.Proofs.LayeredSettings

/-!
# Settings from one place

Where a single source says something, the settings are what its layer gives: a file in a usual
place or one that is named, or a variable among others that say nothing.
-/

namespace BusBridge

namespace Environment

variable {before after entries : List (String × String)}

/-- The variables give no keys. -/
def Silent (entries : List (String × String)) : Prop :=
  ∀ entry ∈ entries, keyParts? entry.1 = none

theorem foldl_silent (silent : Silent entries) (start : Layer) :
    entries.foldl addVariable start = start := by
  induction entries generalizing start with
  | nil => rfl
  | cons entry entries ih =>
      obtain ⟨here, later⟩ := List.forall_mem_cons.mp silent
      have same : addVariable start entry = start := by
        rw [addVariable, here]
      rw [List.foldl_cons, same, ih later]

theorem layer_silent (silent : Silent entries) : layer entries = .empty :=
  foldl_silent silent .empty

/-- A variable among others that give no keys. -/
theorem layer_variable (silent : Silent (before ++ after)) (key : Settings.Key) (value : String) :
    layer (before ++ (key.variableName, value) :: after) =
      Layer.empty.set key.name (readValue (Text.trim value).toList) := by
  obtain ⟨first, last⟩ := List.forall_mem_append.mp silent
  rw [layer, List.foldl_append, List.foldl_cons, foldl_silent first, foldl_silent last]
  exact Choices.addVariable_name .empty key value

end Environment

namespace Flags

open CommandLine

/-- A file is named in one word with its option. -/
theorem read_path {path : RawText} (named : path.bytes ≠ []) :
    Flags.read [⟨(RawText.ofString "--config-path").bytes ++ 0x3D :: path.bytes⟩] =
      .ok ⟨.empty, some path⟩ := by
  have legal : pathOption.rule.check pathOption.usage path = .ok () :=
    if_neg (by simpa using named)
  have accepted := @accept_eq_ok pathOption .start path legal nofun
  have stepped : [⟨(RawText.ofString "--config-path").bytes ++ 0x3D :: path.bytes⟩].foldlM
      level.step .start = .ok (Progress.start.after [(.configPath, path)]) := by
    rw [List.foldlM_cons, step_joined_path, accepted]
    rfl
  exact read_eq_ok_iff.mpr ⟨_, (Level.read_eq_ok_iff rfl).mpr ⟨_, stepped, rfl⟩, rfl⟩

end Flags

namespace ConfigFile

variable {surroundings : Surroundings} {place : String} {document : Toml.Entries}

/-- A file that extends no other says what its document says. -/
theorem load_document (found : document? surroundings place = some document)
    (unextended : base document = .none) : load surroundings place = .ok (layer document) := by
  rw [load, maxDepth, loadFrom, List.contains_nil, if_neg Bool.false_ne_true, found]
  simp only [unextended]

/-- The only file that there is, if it can be loaded, is found in the usual places. -/
theorem loadFirst_of_only {layer : Layer} {paths : List String}
    (only : ∀ other, other ≠ place → surroundings.contents? other = none)
    (loads : load surroundings place = .ok layer) (isFile : surroundings.contents? place ≠ none)
    (member : place ∈ paths) : loadFirst surroundings paths = (some layer, []) := by
  induction paths with
  | nil => cases member
  | cons path paths ih =>
      rw [loadFirst]
      by_cases same : path = place
      · obtain ⟨text, contents⟩ := Option.ne_none_iff_exists'.mp isFile
        rw [same, contents]
        simp only [loads]
      · rw [only path same]
        exact ih ((List.mem_cons.mp member).resolve_left (Ne.symm same))

/-- The document gives a text for this setting, and nothing else that counts. -/
structure GivesAlone (document : Toml.Entries) (key : Settings.Key) (text : String) : Prop where
  here : document.get? key.name = some (.text text)
  nothing_else : ∀ other : Settings.Key, other ≠ key → document.get? other.name = none
  noBase : document.get? "extends" = none

section Alone

variable {key : Settings.Key} {text : String}

theorem GivesAlone.unextended (gives : GivesAlone document key text) : base document = .none := by
  rw [base, gives.noBase]

theorem GivesAlone.layer_eq (gives : GivesAlone document key text) :
    layer document = Layer.empty.set key.name (.text text) := by
  have here : settingIn? document key.name = some (.text text) := by
    rw [settingIn?, gives.here]
  have elsewhere (other : Settings.Key) (different : other ≠ key) :
      settingIn? document other.name = none := by
    rw [settingIn?, gives.nothing_else other different]
  change (⟨settingIn? document (Settings.Key.name .bus),
    settingIn? document (Settings.Key.name .logFilter),
    settingIn? document (Settings.Key.name .logFormat)⟩ : Layer) = _
  cases key with
  | bus => rw [here, elsewhere .logFilter (by decide), elsewhere .logFormat (by decide)]; rfl
  | logFilter => rw [here, elsewhere .bus (by decide), elsewhere .logFormat (by decide)]; rfl
  | logFormat => rw [here, elsewhere .bus (by decide), elsewhere .logFilter (by decide)]; rfl

theorem givesAlone_write (key : Settings.Key) (text : String) :
    ∃ document, Toml.read? (Toml.write [(key.name, text)]) = some document ∧
      GivesAlone document key text := by
  refine ⟨_, Toml.read?_write ?_ (List.pairwise_singleton _ _), ?_⟩
  · intro entry member
    obtain rfl := List.mem_singleton.mp member
    exact Settings.Key.isBare_name key
  · refine ⟨List.lookup_cons_self, fun other different => ?_, ?_⟩
    · cases key <;> cases other <;> first | rfl | exact absurd rfl different
    · cases key <;> rfl

end Alone

end ConfigFile

namespace Settings

/-- What is loaded where the settings were read, or could not be read. -/
def loaded : Option Settings → Except SettingsError Settings
  | some settings => .ok settings
  | none => .error .merge

open ConfigFile

variable {surroundings : Surroundings} {program : RawText}

/-- Where flags and files can be read, it depends on the layers alone whether the settings can be
loaded. -/
theorem load_of_read {words : List RawText} {given : Flags.Given} {file : Layer}
    (read : Flags.read words = .ok given)
    (gathered : gather surroundings given.configPath? = (file, [])) :
    load surroundings (program :: words) =
      loaded (given.layer.onTopOf
        ((Environment.layer surroundings.environment).onTopOf file)).settings? := by
  have flags := loadFlags_eq_iff.mpr read
  rw [load, List.drop_one, List.tail_cons, flags]
  simp only [gathered, mergeLayers]
  cases (given.layer.onTopOf
    ((Environment.layer surroundings.environment).onTopOf file)).settings? <;> rfl

theorem load_environment (noFiles : ∀ place, surroundings.contents? place = none) :
    load surroundings [program] =
      loaded (Environment.layer surroundings.environment).settings? := by
  have gathered : gather surroundings Flags.Given.nothing.configPath? = (.empty, []) :=
    gather_none noFiles
  rw [load_of_read (show Flags.read [] = .ok .nothing from rfl) gathered]
  exact congrArg (fun layer => loaded layer.settings?) (Layer.onTopOf_empty _)

section Files

variable {document : Toml.Entries} {place : String} {path : RawText}

theorem load_file (silent : Environment.Silent surroundings.environment) {words : List RawText}
    {path? : Option RawText} (read : Flags.read words = .ok ⟨.empty, path?⟩)
    (gathered : gather surroundings path? = (layer document, [])) :
    load surroundings (program :: words) = loaded (layer document).settings? := by
  rw [load_of_read read gathered, Environment.layer_silent silent, Layer.empty_onTopOf,
    Layer.empty_onTopOf]

theorem load_usual_file (silent : Environment.Silent surroundings.environment)
    (found : document? surroundings place = some document) (unextended : base document = .none)
    (usual : place ∈ candidates surroundings)
    (only : ∀ other, other ≠ place → surroundings.contents? other = none) :
    load surroundings [program] = loaded (layer document).settings? := by
  have isFile : surroundings.contents? place ≠ none := by
    intro missing
    rw [document?, missing] at found
    cases found
  have gathered : gather surroundings none = (layer document, []) := by
    rw [gather, discover, loadFirst_of_only only (load_document found unextended) isFile usual]
  exact load_file silent rfl gathered

theorem load_named_file (silent : Environment.Silent surroundings.environment)
    (found : document? surroundings place = some document) (unextended : base document = .none)
    (named : path.bytes ≠ []) (required : requiredPath surroundings path = some place) :
    load surroundings
        [program, ⟨(RawText.ofString "--config-path").bytes ++ 0x3D :: path.bytes⟩] =
      loaded (layer document).settings? := by
  have gathered : gather surroundings (some path) = (layer document, []) := by
    rw [gather_some_iff, loadRequired, required]
    exact load_document found unextended
  exact load_file silent (Flags.read_path named) gathered

end Files

end Settings

end BusBridge
