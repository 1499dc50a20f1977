import BusBridge.Settings.Load

/-!
# Sources of settings

A file that is named on the command line, the variables of the environment and flags each
give some of the settings.  They can be loaded all together, or one source on its own.
-/

namespace BusBridge

namespace Settings

/-- What a setting is called, wherever it is given. -/
inductive Key
  | bus
  | logFilter
  | logFormat
deriving DecidableEq, Repr

namespace Key

def all : List Key :=
  [bus, logFilter, logFormat]

theorem mem_all (key : Key) : key ∈ all := by
  cases key <;> decide

def name : Key → String
  | bus => "bus"
  | logFilter => "log_filter"
  | logFormat => "log_format"

end Key

/-- A setting as text. -/
def value (settings : Settings) : Key → String
  | .bus => settings.bus.name
  | .logFilter => settings.logFilter
  | .logFormat => settings.logFormat.name

end Settings

namespace Layer

def setting? (layer : Layer) : Settings.Key → Option Entry
  | .bus => layer.bus?
  | .logFilter => layer.logFilter?
  | .logFormat => layer.logFormat?

end Layer

/-- Where settings come from, besides the defaults. -/
inductive Source
  | file
  | environment
  | flags
deriving DecidableEq, Repr

namespace Source

def all : List Source :=
  [file, environment, flags]

theorem mem_all (source : Source) : source ∈ all := by
  cases source <;> decide

/-- The height of a layer: what a higher source gives goes on top. -/
def rank : Source → Nat
  | file => 0
  | environment => 1
  | flags => 2

end Source

/-- A configuration file as it is named on the command line, among the files that there are. -/
structure NamedFile where
  /-- The path stands in one word with its option, after an equals sign. -/
  joined : Bool
  path : RawText
  contents? : String → Option String

namespace NamedFile

/-- The words that name the file. -/
def words (file : NamedFile) : List RawText :=
  if file.joined then [⟨(RawText.ofString "--config-path").bytes ++ 0x3D :: file.path.bytes⟩]
  else [.ofString "--config-path", file.path]

end NamedFile

/-- All that the settings are loaded from. -/
structure Sources where
  program : RawText
  directory : String
  file? : Option NamedFile
  environment : List (String × String)
  /-- The flags, without those words that name the file. -/
  flags : List RawText

namespace Sources

def surroundings (sources : Sources) : ConfigFile.Surroundings :=
  ⟨sources.environment, sources.directory,
    (sources.file?.map NamedFile.contents?).getD fun _ => none⟩

def arguments (sources : Sources) : List RawText :=
  sources.program :: ((sources.file?.map NamedFile.words).getD [] ++ sources.flags)

/-- Load the settings from all sources together. -/
def load (sources : Sources) : Except SettingsError Settings :=
  Settings.load sources.surroundings sources.arguments

/-- One source on its own. -/
def only (sources : Sources) : Source → Sources
  | .file => { sources with environment := [], flags := [] }
  | .environment => { sources with file? := none, flags := [] }
  | .flags => { sources with file? := none, environment := [] }

/-- What a source says, if it can be read. -/
def layer? (sources : Sources) : Source → Option Layer
  | .file =>
    match sources.file? with
    | none => some .empty
    | some file => (ConfigFile.loadRequired sources.surroundings file.path).toOption
  | .environment => some (Environment.layer sources.environment)
  | .flags => (Flags.read sources.flags).toOption.map Flags.Given.layer

/-- What a source says about a setting. -/
def setting? (sources : Sources) (source : Source) (key : Settings.Key) : Option Entry :=
  (sources.layer? source).bind fun layer => layer.setting? key

/-- The source sets the setting. -/
def Sets (sources : Sources) (source : Source) (key : Settings.Key) : Prop :=
  sources.setting? source key ≠ none

instance (sources : Sources) (source : Source) (key : Settings.Key) :
    Decidable (sources.Sets source key) :=
  inferInstanceAs (Decidable (_ ≠ _))

/-- A higher source sets the setting. -/
def Overridden (sources : Sources) (source : Source) (key : Settings.Key) : Prop :=
  ∃ higher, source.rank < higher.rank ∧ sources.Sets higher key

instance (sources : Sources) (source : Source) (key : Settings.Key) :
    Decidable (sources.Overridden source key) :=
  decidable_of_iff (∃ higher ∈ Source.all, source.rank < higher.rank ∧ sources.Sets higher key)
    (exists_congr fun higher => and_iff_right higher.mem_all)

/-- The source is the highest one that sets the setting. -/
structure Decides (sources : Sources) (source : Source) (key : Settings.Key) : Prop where
  sets : sources.Sets source key
  highest : ¬sources.Overridden source key

instance (sources : Sources) (source : Source) (key : Settings.Key) :
    Decidable (sources.Decides source key) :=
  decidable_of_iff (sources.Sets source key ∧ ¬sources.Overridden source key)
    ⟨fun both => ⟨both.1, both.2⟩, fun decides => ⟨decides.sets, decides.highest⟩⟩

/-- Each source can be loaded on its own, and gives these settings. -/
def LoadAlone (sources : Sources) (alone : Source → Settings) : Prop :=
  ∀ source, (sources.only source).load = .ok (alone source)

end Sources

end BusBridge
