import BusBridge.Settings.Environment
import BusBridge.Settings.File
import BusBridge.Settings.Flags

/-!
# Loading the settings

The settings come from defaults, from a file, from the environment and from flags,
each on top of the one before.  Every source is tried, and all the errors are
reported together.
-/

namespace BusBridge

inductive SettingsError
  /-- The flags could not be read, or help was asked for. -/
  | flags (stop : CommandLine.Interruption)
  | file
  | cyclicExtends
  /-- A setting has a value that it cannot have. -/
  | merge
  | aggregate (errors : List SettingsError)

namespace SettingsError

def ofFile : ConfigFile.FileError → SettingsError
  | .unreadable => file
  | .cyclic => cyclicExtends

/-- Several errors as one, if there are any. -/
def combine? : List SettingsError → Option SettingsError
  | [] => none
  | [error] => some error
  | errors => some (aggregate errors)

end SettingsError

namespace Settings

/-- The flags that count, and the error if they could not be read. -/
def loadFlags (words : List RawText) : Flags.Given × List SettingsError :=
  match Flags.read words with
  | .ok given => (given, [])
  | .error stop => (.nothing, [.flags stop])

/-- The settings of all layers together, and the error if they are none. -/
def mergeLayers (layer : Layer) : Settings × List SettingsError :=
  match layer.settings? with
  | some settings => (settings, [])
  | none => (default, [.merge])

/-- Load the settings.  The arguments begin with the name of the program. -/
def load (surroundings : ConfigFile.Surroundings) (arguments : List RawText) :
    Except SettingsError Settings :=
  let (given, flagErrors) := loadFlags (arguments.drop 1)
  let (file, fileErrors) := ConfigFile.gather surroundings given.configPath?
  let environment := Environment.layer surroundings.environment
  let (settings, mergeErrors) := mergeLayers (given.layer.onTopOf (environment.onTopOf file))
  match SettingsError.combine?
      (flagErrors ++ fileErrors.map SettingsError.ofFile ++ mergeErrors) with
  | some error => .error error
  | none => .ok settings

end Settings

end BusBridge
