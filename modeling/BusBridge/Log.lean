import BusBridge.Json

/-!
# Log events

What the program reports about its work: a level, the part of the program that
reports, a message, and named fields.  An event is written on one line, either as
text or as a JSON object.
-/

namespace BusBridge

namespace Log

/-- The levels, from the most to the least severe. -/
inductive Level
  | error
  | warn
  | info
  | debug
  | trace
deriving DecidableEq, Repr, Inhabited

namespace Level

def name : Level → String
  | error => "ERROR"
  | warn => "WARN"
  | info => "INFO"
  | debug => "DEBUG"
  | trace => "TRACE"

/-- How much is reported at this level; a filter admits the levels up to its own. -/
def verbosity : Level → Nat
  | error => 1
  | warn => 2
  | info => 3
  | debug => 4
  | trace => 5

end Level

/-- The value of a field: a text shown as it is, a text shown in quotes, or a
number. -/
inductive FieldValue
  | plain (text : String)
  | quoted (text : String)
  | number (value : Nat)
deriving DecidableEq, Repr

namespace FieldValue

def display : FieldValue → String
  | plain text => text
  | quoted text => Text.quoted text
  | number value => toString value

def toJson : FieldValue → Json
  | plain text => .string text
  | quoted text => .string text
  | number value => .integer value

end FieldValue

/-- One report. -/
structure Event where
  level : Level
  target : String
  message : String
  fields : List (String × FieldValue)
deriving DecidableEq, Repr

namespace Event

/-- The event as a line of text, without the time. -/
def line (event : Event) : String :=
  let fields := event.fields.map fun (name, value) => s!" {name}=" ++ value.display
  event.level.name ++ " " ++ event.target ++ ": " ++ event.message ++ String.join fields

/-- The event as a JSON object, without the time. -/
def toJson (event : Event) : Json :=
  .object ([("level", .string event.level.name), ("message", .string event.message)] ++
    event.fields.map (fun (name, value) => (name, value.toJson)) ++
    [("target", .string event.target)])

end Event

end Log

end BusBridge
