import BusBridge.CommandLine.Split
import BusBridge.Logging
import BusBridge.RunError
import BusBridge.Session

/-!
# Runs

A run takes a command line to its end.  It reads the command line, loads the
settings, sets up the logging, checks the command, connects to the bus, looks up the
interface of the remote object and carries out the command there.  The first stage
that fails ends the run, and nothing of the later stages happens.  What a run does to
the world around it is written down in order.
-/

namespace BusBridge

/-- What a run does to the world around it. -/
inductive Effect
  | loadSettings (arguments : List RawText)
  | setUpLogging
  | connect (kind : BusKind)
  | request (request : BusRequest)
deriving DecidableEq, Repr

/-- The world around a run, with buses whose states are of type `σ`. -/
structure World (σ : Type) where
  /-- The settings that the leading flags of the command line lead to. -/
  load : List RawText → Except SettingsError Settings
  /-- The logging for the settings, unless their log filter is invalid. -/
  logging? : Settings → Option Logging
  /-- Put the logging in place for the rest of the run. -/
  install : Logging → Except String Unit
  /-- Start what the operations of a session are carried out in. -/
  startRuntime : Except String Unit
  connect : BusKind → Except String σ
  /-- What is reported when a connection was made. -/
  connecting : BusKind → List Log.Event
  bus : Bus σ
  /-- The order in which the run comes to look at a call and at the wait beside it. -/
  scheduler : Scheduler
  wording : Wording

/-- How a run ends.  A run that waits for something that never happens does not. -/
inductive Ending
  | succeeded
  | failed (error : RunError)
  | pending

namespace Ending

def logTarget : String :=
  "ndb_cli"

def reports : Ending → List Log.Event
  | failed error => [⟨.debug, logTarget, "command failed", [("error", .plain error.message)]⟩]
  | _ => []

/-- What is written to the standard error at the end. -/
def standardError : Ending → String
  | failed error => error.message ++ "\n"
  | _ => ""

/-- The ending of a run that ends with writing a result. -/
def ofWritten : Except OutputError Unit × Sink → Ending × Sink
  | (.ok (), output) => (succeeded, output)
  | (.error error, output) => (failed (.output error), output)

end Ending

/-- A run that was taken as far as it goes. -/
structure Run (σ : Type) where
  ending : Ending
  output : Sink
  effects : List Effect
  logging : Logging
  /-- What was reported since the logging was set up. -/
  reports : List Log.Event
  /-- The bus, if a connection was made. -/
  connection? : Option (Connection σ)

namespace Run

variable {σ : Type}

/-- Show the reply to a call and then how the wait beside it ended. -/
def present (format : OutputFormat) (report : CallReport) (output : Sink) : Ending × Sink :=
  match output.write (Output.reply format report.reply) with
  | (.error error, output) => (.failed (.output error), output)
  | (.ok (), output) =>
    match report.wait? with
    | none => (.succeeded, output)
    | some (.ok arrival) => Ending.ofWritten (output.write (Output.arrival format arrival))
    | some (.error error) => (.failed (.signalAfterCall error), output)

/-- Show what an operation of the session gave, if it gave something. -/
def finish {α : Type} (shown : α → Sink → Ending × Sink) (output : Sink) :
    Outcome α × Connection σ → Ending × Sink × Connection σ
  | (.done value, connection) =>
    let (ending, output) := shown value output
    (ending, output, connection)
  | (.failed error, connection) => (.failed (.session error), output, connection)
  | (.pending, connection) => (.pending, output, connection)

def perform (session : Session σ) (command : Command) (format : OutputFormat) (output : Sink)
    (connection : Connection σ) : Ending × Sink × Connection σ :=
  match command with
  | .api =>
    let (ending, output) := Ending.ofWritten (output.write (Output.api format session.interface))
    (ending, output, connection)
  | .signal signals limit =>
    finish (fun arrival output => Ending.ofWritten (output.write (Output.arrival format arrival)))
      output (session.wait signals limit connection)
  | .method name arguments signals limit =>
    finish (present format) output
      (session.invokeAndWait name arguments signals limit connection)

def serve (world : World σ) (command : Command) (format : OutputFormat) (output : Sink)
    (connection : Connection σ) : Ending × Sink × Connection σ :=
  match Session.resolve world.bus world.scheduler Target.nickel connection with
  | (.ok session, connection) => perform session command format output connection
  | (.error error, connection) => (.failed (.session error), output, connection)

/-- A run that ends before a connection was made. -/
def ended (ending : Ending) (logging : Logging) (output : Sink) (effects : List Effect) : Run σ :=
  ⟨ending, output, effects, logging, ending.reports, none⟩

/-- A run that fails before its logging was set up. -/
def refused (error : RunError) (output : Sink) (effects : List Effect) : Run σ :=
  ⟨.failed error, output, effects, .silent, [], none⟩

/-- A run that only shows a text.  It succeeds whether the text fits or not. -/
def showing (text : String) (output : Sink) : Run σ :=
  ended .succeeded .silent (output.put (RawText.ofString text).bytes).2 []

/-- Connect to the bus of the settings and carry out a command there. -/
def onBus (world : World σ) (settings : Settings) (logging : Logging) (command : Command)
    (format : OutputFormat) (output : Sink) (effects : List Effect) : Run σ :=
  match world.connect settings.bus with
  | .error reason =>
    ended (.failed (.session (.connection reason))) logging output
      (effects ++ [.connect settings.bus])
  | .ok state =>
    let opened := (Connection.start state).report (world.connecting settings.bus)
    let (ending, output, connection) := serve world command format output opened
    ⟨ending, output,
      effects ++ .connect settings.bus :: connection.requests.map .request,
      logging, connection.reports ++ ending.reports, some connection⟩

/-- Check the command that was typed and carry it out. -/
def withLogging (world : World σ) (settings : Settings) (logging : Logging) (typed : TypedRequest)
    (output : Sink) (effects : List Effect) : Run σ :=
  match Command.ofTyped typed.command with
  | .error error => ended (.failed (.command error)) logging output effects
  | .ok command =>
    match world.startRuntime with
    | .error reason => ended (.failed (.runtime reason)) logging output effects
    | .ok () => onBus world settings logging command typed.format output effects

/-- Set up the logging and carry out what was typed. -/
def withSettings (world : World σ) (settings : Settings) (typed : TypedRequest) (output : Sink)
    (effects : List Effect) : Run σ :=
  let effects := effects ++ [.setUpLogging]
  match world.logging? settings with
  | none => refused (world.wording.logFilterError settings.logFilter) output effects
  | some logging =>
    match world.install logging with
    | .error reason => refused (.subscriber reason) output effects
    | .ok () => withLogging world settings logging typed output effects

/-- Load the settings and carry out what was typed. -/
def execute (world : World σ) (configArguments : List RawText) (typed : TypedRequest)
    (output : Sink) : Run σ :=
  match world.load configArguments with
  | .error error =>
    refused (world.wording.settingsError configArguments error) output
      [.loadSettings configArguments]
  | .ok settings => withSettings world settings typed output [.loadSettings configArguments]

/-- Run the program with a command line, the name of the program included. -/
def ofArguments (world : World σ) (arguments : List RawText) (output : Sink) : Run σ :=
  let split := CommandLine.Split.ofArguments arguments
  let words := split.commandArguments arguments
  match CommandLine.read words with
  | .ok typed => execute world split.configArguments typed output
  | .error (.usage error) => refused (world.wording.usageError words error) output []
  | .error (.help topic long) => showing (CommandLine.Help.text topic long) output
  | .error .version => showing CommandLine.Help.version output

def connects (run : Run σ) : List BusKind :=
  run.effects.filterMap fun
    | .connect kind => some kind
    | _ => none

def requests (run : Run σ) : List BusRequest :=
  run.effects.filterMap fun
    | .request request => some request
    | _ => none

def logLines (run : Run σ) : List String :=
  run.logging.lines run.reports

def isSuccess (run : Run σ) : Bool :=
  match run.ending with
  | .succeeded => true
  | _ => false

end Run

end BusBridge
