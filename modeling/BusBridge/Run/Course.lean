import BusBridge.Run

/-!
# Courses of a run

All the ways in which a run can go, each with how it ends and what it shows on its
output, if the output takes everything.  The first rules are about the stages that can end
a run before a command is carried out, the others about what an operation of the session
gives.
-/

namespace BusBridge

namespace CommandLine.Stop

/-- What is shown instead of carrying out a command, unless the command line is wrong. -/
def shown? : Stop → Option String
  | usage _ => none
  | help topic long => some (Help.text topic long)
  | version => some Help.version

end CommandLine.Stop

namespace Output

/-- The text that a result is written as. -/
def text (pieces : List OutputPiece) : String :=
  String.join (pieces.map OutputPiece.text)

end Output

section Endings

variable (format : OutputFormat)

/-- How a wait for signals ends a run, and what it shows. -/
inductive Arrival.Ends : Outcome Arrival → Ending → String → Prop
  | arrived (arrival : Arrival) :
      Ends (.done arrival) .succeeded (Output.text (Output.arrival format arrival))
  | failed (error : SessionError) : Ends (.failed error) (.failed (.session error)) ""
  | pending : Ends .pending .pending ""

/-- How a call ends a run, and what it shows: the reply stands first, if there is one. -/
inductive CallReport.Ends : Outcome CallReport → Ending → String → Prop
  | replied (reply : List Value) :
      Ends (.done ⟨reply, none⟩) .succeeded (Output.text (Output.reply format reply))
  | arrived (reply : List Value) (arrival : Arrival) :
      Ends (.done ⟨reply, some (.ok arrival)⟩) .succeeded
        (Output.text (Output.reply format reply) ++ Output.text (Output.arrival format arrival))
  | missed (reply : List Value) (error : SessionError) :
      Ends (.done ⟨reply, some (.error error)⟩) (.failed (.signalAfterCall error))
        (Output.text (Output.reply format reply))
  | failed (error : SessionError) : Ends (.failed error) (.failed (.session error)) ""
  | pending : Ends .pending .pending ""

/-- How a command ends that is carried out in a session, and what it shows. -/
inductive Command.Ends {σ : Type} (session : Session σ) (connection : Connection σ) :
    Command → Ending → String → Prop
  | api : Ends session connection .api .succeeded
      (Output.text (Output.api format session.interface))
  | signal {signals : SignalSet} {limit : WaitLimit} {ending : Ending} {text : String}
      (ends : Arrival.Ends format (session.wait signals limit connection).1 ending text) :
      Ends session connection (.signal signals limit) ending text
  | method {name : String} {tokens : List String} {signals : SignalSet} {limit : WaitLimit}
      {ending : Ending} {text : String}
      (ends : CallReport.Ends format
        (session.invokeAndWait name tokens signals limit connection).1 ending text) :
      Ends session connection (.method name tokens signals limit) ending text

end Endings

namespace Run

/-- The words of a command line, the configuration flags left out. -/
def words (arguments : List RawText) : List RawText :=
  (CommandLine.Split.ofArguments arguments).commandArguments arguments

/-- What a command line asks for. -/
def asked (arguments : List RawText) : Except CommandLine.Stop TypedRequest :=
  CommandLine.read (words arguments)

def flags (arguments : List RawText) : List RawText :=
  (CommandLine.Split.ofArguments arguments).configArguments

variable {σ : Type} (world : World σ) (arguments : List RawText)

/-- The command line was read, and there are settings and logging for it. -/
structure SetsUp (typed : TypedRequest) (settings : Settings) : Prop where
  asked_eq : asked arguments = .ok typed
  load_eq : world.load (flags arguments) = .ok settings
  logs : ∃ logging, world.logging? settings = some logging ∧ world.install logging = .ok ()

/-- A command is about to be carried out on a connection that was made. -/
structure Connects (typed : TypedRequest) (command : Command) (settings : Settings)
    (connection : Connection σ) : Prop where
  setsUp : SetsUp world arguments typed settings
  command_eq : Command.ofTyped typed.command = .ok command
  starts : world.startRuntime = .ok ()
  connect_eq : ∃ state, world.connect settings.bus = .ok state ∧
    connection = (Connection.start state).report (world.connecting settings.bus)

/-- A command is about to be carried out in a session. -/
def Reaches (format : OutputFormat) (command : Command) (session : Session σ)
    (connection : Connection σ) : Prop :=
  ∃ typed settings first, typed.format = format ∧
    Connects world arguments typed command settings first ∧
    Session.resolve world.bus world.scheduler Target.nickel first = (.ok session, connection)

/-- Why a run halts before it has a connection, and its effects up to there. -/
inductive HaltsUnconnected : RunError → List Effect → Prop
  | misread {error : UsageError} (stopped : asked arguments = .error (.usage error)) :
      HaltsUnconnected (world.wording.usageError (words arguments) error) []
  | noSettings {typed : TypedRequest} {error : SettingsError}
      (read : asked arguments = .ok typed) (unknown : world.load (flags arguments) = .error error) :
      HaltsUnconnected (world.wording.settingsError (flags arguments) error)
        [.loadSettings (flags arguments)]
  | noLogging {typed : TypedRequest} {settings : Settings}
      (read : asked arguments = .ok typed) (loaded : world.load (flags arguments) = .ok settings)
      (unreadable : world.logging? settings = none) :
      HaltsUnconnected (world.wording.logFilterError settings.logFilter)
        [.loadSettings (flags arguments), .setUpLogging]
  | noSubscriber {typed : TypedRequest} {settings : Settings} {logging : Logging}
      {reason : String} (read : asked arguments = .ok typed)
      (loaded : world.load (flags arguments) = .ok settings)
      (logs : world.logging? settings = some logging)
      (refused : world.install logging = .error reason) :
      HaltsUnconnected (.subscriber reason) [.loadSettings (flags arguments), .setUpLogging]
  | noCommand {typed : TypedRequest} {settings : Settings} {error : CommandError}
      (setsUp : SetsUp world arguments typed settings)
      (blank : Command.ofTyped typed.command = .error error) :
      HaltsUnconnected (.command error) [.loadSettings (flags arguments), .setUpLogging]
  | noRuntime {typed : TypedRequest} {settings : Settings} {command : Command} {reason : String}
      (setsUp : SetsUp world arguments typed settings)
      (typed_ok : Command.ofTyped typed.command = .ok command)
      (refused : world.startRuntime = .error reason) :
      HaltsUnconnected (.runtime reason) [.loadSettings (flags arguments), .setUpLogging]
  | noConnection {typed : TypedRequest} {settings : Settings} {command : Command}
      {reason : String} (setsUp : SetsUp world arguments typed settings)
      (typed_ok : Command.ofTyped typed.command = .ok command)
      (starts : world.startRuntime = .ok ())
      (refused : world.connect settings.bus = .error reason) :
      HaltsUnconnected (.session (.connection reason))
        [.loadSettings (flags arguments), .setUpLogging, .connect settings.bus]

/-- How a run ends, and what it shows. -/
inductive Course : Ending → String → Prop
  | informed {stop : CommandLine.Stop} {text : String} (stopped : asked arguments = .error stop)
      (shown : stop.shown? = some text) : Course .succeeded text
  | unconnected {error : RunError} {effects : List Effect}
      (halts : HaltsUnconnected world arguments error effects) : Course (.failed error) ""
  | noSession {typed : TypedRequest} {command : Command} {settings : Settings}
      {connection : Connection σ} {error : SessionError}
      (connects : Connects world arguments typed command settings connection)
      (unresolved : (Session.resolve world.bus world.scheduler Target.nickel connection).1 =
        .error error) :
      Course (.failed (.session error)) ""
  | carriedOut {format : OutputFormat} {command : Command} {session : Session σ}
      {connection : Connection σ} {ending : Ending} {text : String}
      (reaches : Reaches world arguments format command session connection)
      (ends : command.Ends format session connection ending text) : Course ending text

end Run

end BusBridge
