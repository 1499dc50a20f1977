import BusBridge.Settings.Sources
import BusBridge.Toml.Writing

/-!
# Writing choices for the settings

For every source and every setting a text can be chosen, or none.  The choices are written down
where each source has its place: as lines of a file, as variables, and as flags.
-/

namespace BusBridge

namespace Settings.Key

def variableName : Key → String
  | .bus => "NDB_BUS"
  | .logFilter => "NDB_LOG_FILTER"
  | .logFormat => "NDB_LOG_FORMAT"

def flag : Key → String
  | .bus => "--bus"
  | .logFilter => "--log-filter"
  | .logFormat => "--log-format"

/-- How a flag passes on the text that it was given. -/
def spelling (text : String) : Key → String
  | .bus => BusKind.choices.spelling text
  | .logFilter => text
  | .logFormat => LogFormat.choices.spelling text

end Settings.Key

namespace Source

/-- What a source says with the text that was chosen for a setting. -/
def entryFor (source : Source) (key : Settings.Key) (text : String) : Entry :=
  match source with
  | .file => .text text
  | .environment => Environment.readValue (Text.trim text).toList
  | .flags => .text (key.spelling text)

end Source

/-- The text that is chosen for a source and a setting, if there is one. -/
abbrev Choices : Type :=
  Source → Settings.Key → Option String

/-- Where the program runs, and how its configuration file is named. -/
structure Location where
  program : RawText
  directory : String
  path : RawText
  joined : Bool

namespace Choices

/-- The settings for which a text is chosen, with their texts. -/
def listed (choices : Choices) (source : Source) : List (Settings.Key × String) :=
  Settings.Key.all.filterMap fun key => (choices source key).map fun text => (key, text)

def document (choices : Choices) : String :=
  Toml.write ((choices.listed .file).map fun entry => (entry.1.name, entry.2))

def variableEntries (choices : Choices) : List (String × String) :=
  (choices.listed .environment).map fun entry => (entry.1.variableName, entry.2)

def flags (choices : Choices) : List RawText :=
  (choices.listed .flags).map fun entry => .ofString (entry.1.flag ++ "=" ++ entry.2)

/-- The sources in which the choices are written down.  There is no other file. -/
def write (choices : Choices) (location : Location) : Sources where
  program := location.program
  directory := location.directory
  file? := some {
    joined := location.joined
    path := location.path
    contents? := fun place =>
      if location.path.decode?.map (ConfigFile.absolute location.directory) = some place then
        some choices.document
      else none }
  environment := choices.variableEntries
  flags := choices.flags

end Choices

end BusBridge
