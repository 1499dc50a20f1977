import BusBridge.Command
import BusBridge.Output
import BusBridge.SessionError
import BusBridge.Settings.Load

/-!
# Failures of a run

Everything that can make a run of the program fail, in the order of its stages, and the text that
each failure shows.  The errors of the libraries that read the command line, the settings and the
log filter show texts of these libraries.
-/

namespace BusBridge

/-- An error that a library has found, with the text that the library shows for it. -/
structure Worded (ε : Type) where
  error : ε
  text : String

namespace Worded

/-- A worded error stands for the error itself. -/
instance {ε : Type} : CoeOut (Worded ε) ε :=
  ⟨error⟩

end Worded

inductive RunError
  | usage (error : Worded UsageError)
  | settings (error : Worded SettingsError)
  /-- The log filter of the settings cannot be read. -/
  | logFilter (reason : String)
  /-- The logging cannot be installed. -/
  | subscriber (reason : String)
  | command (error : CommandError)
  /-- There is nothing to carry out a command in. -/
  | runtime (reason : String)
  | session (error : SessionError)
  /-- The call succeeded, and the wait beside it failed. -/
  | signalAfterCall (error : SessionError)
  | output (error : OutputError)

namespace RunError

def message : RunError → String
  | usage error => error.text
  | settings error => "failed to load configuration: " ++ error.text
  | logFilter reason => "invalid log filter: " ++ reason
  | subscriber reason => "failed to install telemetry subscriber: " ++ reason
  | command error => error.message
  | runtime reason => "failed to start the async runtime: " ++ reason
  | session error => error.message
  | signalAfterCall error => "error waiting for signal after method call: " ++ error.message
  | output error => error.message

end RunError

/-- The texts that the libraries show for the errors that they find. -/
structure Wording where
  /-- For an error in the words of a command line. -/
  usage : List RawText → UsageError → String
  /-- For an error in the settings to which these flags lead. -/
  settings : List RawText → SettingsError → String
  /-- For a log filter that cannot be read. -/
  logFilter : String → String

namespace Wording

variable (wording : Wording)

def usageError (words : List RawText) (error : UsageError) : RunError :=
  .usage ⟨error, wording.usage words error⟩

def settingsError (flags : List RawText) (error : SettingsError) : RunError :=
  .settings ⟨error, wording.settings flags error⟩

def logFilterError (filter : String) : RunError :=
  .logFilter (wording.logFilter filter)

/-- No texts but the help, which answers a command line without any words. -/
def helpOnly : Wording where
  usage _ error := if error = .nothingGiven then CommandLine.Help.text .program false else ""
  settings _ _ := ""
  logFilter _ := ""

end Wording

end BusBridge
