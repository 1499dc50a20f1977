import BusBridge.Log.Filter
import BusBridge.Settings

/-!
# Logging

Logging is set up once from the settings: a filter chooses the events that are
written, and a format says how.
-/

namespace BusBridge

/-- Which events are written, and how. -/
structure Logging where
  filter : Log.Filter
  format : LogFormat
deriving DecidableEq, Repr

namespace Logging

def silent : Logging :=
  ⟨.nothing, .compact⟩

/-- The logging that the settings ask for, if their filter can be read. -/
def ofSettings? (settings : Settings) : Option Logging :=
  (Log.Filter.read? settings.logFilter).map fun filter => ⟨filter, settings.logFormat⟩

/-- An event in the chosen format, without the time. -/
def line (logging : Logging) (event : Log.Event) : String :=
  match logging.format with
  | .compact => event.line
  | .json => event.toJson.compact

/-- The lines for those of the events that are written. -/
def lines (logging : Logging) (events : List Log.Event) : List String :=
  (events.filter logging.filter.admits).map logging.line

end Logging

end BusBridge
