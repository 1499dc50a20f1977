import BusBridge.Run.Course

/-!
# Stages of a run

What a run does to the world around it comes in stages: the settings, the logging, the
connection, the description of the remote object, and then what the command needs from the
bus.  The rules at the end tell where a run halts before its command is carried out, and what
it has done by then.
-/

namespace BusBridge

inductive Stage
  | settings
  | logging
  | connection
  | introspection
  | subscription
  | call
deriving DecidableEq, Repr

namespace BusRequest

def stage : BusRequest → Stage
  | introspect _ => .introspection
  | subscribe _ _ => .subscription
  | call _ _ => .call

end BusRequest

namespace Effect

def stage : Effect → Stage
  | loadSettings _ => .settings
  | setUpLogging => .logging
  | connect _ => .connection
  | request asked => asked.stage

end Effect

namespace Command

/-- What a command needs from the bus. -/
def stages : Command → List Stage
  | api => []
  | signal _ _ => [.subscription]
  | method _ _ signals _ => if signals.isEmpty then [.call] else [.subscription, .call]

end Command

namespace Run

def opening : List Stage :=
  [.settings, .logging, .connection, .introspection]

/-- The command that a command line asks for, if it is one that can be carried out. -/
def command? (arguments : List RawText) : Option Command :=
  match asked arguments with
  | .ok typed => (Command.ofTyped typed.command).toOption
  | .error _ => none

/-- All stages of a run that nothing stops. -/
def itinerary (arguments : List RawText) : List Stage :=
  opening ++ ((command? arguments).map Command.stages).getD []

variable {σ : Type} (world : World σ) (arguments : List RawText)

/-- Why a run halts before its command is carried out, and its effects up to there. -/
inductive Halts : RunError → List Effect → Prop
  | unconnected {error : RunError} {effects : List Effect}
      (halts : HaltsUnconnected world arguments error effects) : Halts error effects
  | noDescription {typed : TypedRequest} {settings : Settings} {command : Command}
      {connection : Connection σ} {reason : String}
      (connects : Connects world arguments typed command settings connection)
      (unanswered : (world.bus.introspect Target.nickel connection.bus).1 = .error reason) :
      Halts (.session (.connection reason))
        [.loadSettings (flags arguments), .setUpLogging, .connect settings.bus,
          .request (.introspect Target.nickel)]
  | noInterface {typed : TypedRequest} {settings : Settings} {command : Command}
      {connection : Connection σ} {interfaces : List Interface}
      (connects : Connects world arguments typed command settings connection)
      (described : (world.bus.introspect Target.nickel connection.bus).1 = .ok interfaces)
      (missing : Interface.find? interfaces Target.nickel.interface = none) :
      Halts (.session (.interfaceNotFound Target.nickel.interface))
        [.loadSettings (flags arguments), .setUpLogging, .connect settings.bus,
          .request (.introspect Target.nickel)]

end Run

end BusBridge
