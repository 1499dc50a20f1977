import BusBridge.CommandLine.Request

/-!
# Writing a command line

Every request can be put on a command line in one standard way: an option and its value
are one word, and the plain words come last, after two dashes.
-/

namespace BusBridge

namespace CommandLine

namespace OptionSpec

/-- The option and its value in one word. -/
def assign (option : OptionSpec) (value : String) : String :=
  "--" ++ option.long ++ "=" ++ value

end OptionSpec

end CommandLine

namespace TypedCommand

open CommandLine

/-- The options of a command with their values, and the plain words. -/
def parts : TypedCommand → List (OptionSpec × String) × List String
  | method name arguments signals seconds =>
    (signals.map (signalOption, ·) ++ [(signalTimeoutOption, toString seconds)],
      name :: arguments)
  | signal names seconds => ([(timeoutOption, toString seconds)], names)
  | api => ([], [])

/-- A command that a command line can ask for: at least one signal is named where there is
nothing but signals, and the number of seconds has 64 bits. -/
def IsWritable : TypedCommand → Prop
  | method _ _ _ seconds => seconds < Nat.pow 2 64
  | signal names seconds => names ≠ [] ∧ seconds < Nat.pow 2 64
  | api => True

def commandName : TypedCommand → CommandName
  | method _ _ _ _ => .method
  | signal _ _ => .signal
  | api => .api

end TypedCommand

namespace TypedRequest

open CommandLine

/-- The options of the request with their values. -/
def options (request : TypedRequest) : List (OptionSpec × String) :=
  (outputOption, request.format.word) :: request.command.parts.1

/-- The words of the request after the name of the program. -/
def words (request : TypedRequest) : List String :=
  request.command.commandName.word ::
    request.options.map (fun given => given.1.assign given.2) ++
      "--" :: request.command.parts.2

/-- The whole command line of the request. -/
def line (request : TypedRequest) (program : RawText) : List RawText :=
  program :: request.words.map .ofString

end TypedRequest

end BusBridge
