import BusBridge.Json.Reader
import BusBridge.Settings

/-!
# Settings from JSON

The settings are read from an object, in which unknown members are passed over and
missing ones take their default, or from a list of values in the order of the
settings.  A setting must not be given twice.
-/

namespace BusBridge

namespace Settings

/-- The name that stands for one of several choices: a string, or the only member of
an object whose value is null. -/
def choiceName? : Json → Option String
  | .string name => some name
  | .object [(name, .null)] => some name
  | _ => none

def readChoice? {α : Type} (choices : NamedChoices α) (document : Json) : Option α :=
  (choiceName? document).bind choices.ofName?

def readBus? : Json → Option BusKind :=
  readChoice? BusKind.choices

def readLogFormat? : Json → Option LogFormat :=
  readChoice? LogFormat.choices

def readLogFilter? : Json → Option String
  | .string text => some text
  | _ => none

/-- Settings of which some may be missing. -/
structure Partial where
  bus? : Option BusKind
  logFilter? : Option String
  logFormat? : Option LogFormat
deriving DecidableEq, Repr

namespace Partial

def empty : Partial :=
  ⟨none, none, none⟩

/-- The settings with defaults for what is missing. -/
def complete (given : Partial) : Settings :=
  ⟨given.bus?.getD default.bus, given.logFilter?.getD default.logFilter,
    given.logFormat?.getD default.logFormat⟩

/-- Take in one member of an object.  It fails on a setting that was given before. -/
def addMember (given : Partial) (member : String × Json) : Option Partial :=
  if member.1 = "bus" then
    if given.bus?.isSome then none
    else (readBus? member.2).map fun bus => { given with bus? := some bus }
  else if member.1 = "log_filter" then
    if given.logFilter?.isSome then none
    else (readLogFilter? member.2).map fun filter => { given with logFilter? := some filter }
  else if member.1 = "log_format" then
    if given.logFormat?.isSome then none
    else (readLogFormat? member.2).map fun format => { given with logFormat? := some format }
  else some given

end Partial

/-- The settings that a list of values gives. -/
def ofItems? : List Json → Option Settings
  | [] => some default
  | [bus] => do return { default with bus := ← readBus? bus }
  | [bus, filter] => do
    return { default with bus := ← readBus? bus, logFilter := ← readLogFilter? filter }
  | [bus, filter, format] => do
    return ⟨← readBus? bus, ← readLogFilter? filter, ← readLogFormat? format⟩
  | _ => none

def ofJson? : Json → Option Settings
  | .object members => (members.foldlM Partial.addMember .empty).map Partial.complete
  | .array items => ofItems? items
  | _ => none

def read? (text : String) : Option Settings :=
  (Json.read? text).bind ofJson?

end Settings

end BusBridge
