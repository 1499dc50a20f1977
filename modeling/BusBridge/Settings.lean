import BusBridge.Json
import BusBridge.NamedChoices

/-!
# Settings

The settings say which message bus is used and how the program reports about its
work.
-/

namespace BusBridge

inductive BusKind
  | system
  | session
deriving DecidableEq, Repr, Inhabited

namespace BusKind

def name : BusKind → String
  | system => "system"
  | session => "session"

def choices : NamedChoices BusKind where
  all := [system, session]
  name := name
  mem_all kind := by cases kind <;> decide
  distinct first second := by cases first <;> cases second <;> decide

def ofName? : String → Option BusKind :=
  choices.ofName?

def ofNameInAnyCase? : String → Option BusKind :=
  choices.ofNameInAnyCase?

end BusKind

inductive LogFormat
  | json
  | compact
deriving DecidableEq, Repr, Inhabited

namespace LogFormat

def name : LogFormat → String
  | json => "json"
  | compact => "compact"

def choices : NamedChoices LogFormat where
  all := [json, compact]
  name := name
  mem_all format := by cases format <;> decide
  distinct first second := by cases first <;> cases second <;> decide

def ofName? : String → Option LogFormat :=
  choices.ofName?

def ofNameInAnyCase? : String → Option LogFormat :=
  choices.ofNameInAnyCase?

end LogFormat

structure Settings where
  bus : BusKind
  logFilter : String
  logFormat : LogFormat
deriving DecidableEq, Repr

namespace Settings

/-- The settings where nothing else is said: only warnings and errors are reported. -/
def default : Settings :=
  ⟨.system, "warn", .compact⟩

def toJson (settings : Settings) : Json :=
  .object [("bus", .string settings.bus.name), ("log_filter", .string settings.logFilter),
    ("log_format", .string settings.logFormat.name)]

end Settings

end BusBridge
