import BusBridge.Bus
import BusBridge.Introspection
import BusBridge.Settings
import BusBridge.Wire.Body

/-!
# A bus daemon

A daemon carries the messages between the program and a remote object.  What the
remote object answers and which signals it sends follow a script; the signals that are
not about the object and the interface of a subscription do not reach it.  A call
takes one millisecond: what is sent before its reply is there at once, and what is sent
after the reply comes one millisecond later.
-/

namespace BusBridge

/-- A signal as the daemon sends it, by default about the object and the interface that
the receiver asked for. -/
structure SentSignal where
  member : String
  body : MessageBody
  path? : Option String
  interface? : Option String

namespace SentSignal

def isAbout (signal : SentSignal) (target : Target) : Bool :=
  signal.path?.getD target.path == target.path &&
    signal.interface?.getD target.interface == target.interface

def notification (signal : SentSignal) : Notification :=
  ⟨signal.member, signal.body.values⟩

/-- What arrives at a subscription after a number of milliseconds. -/
def arriving (after : Nat) (target : Target) (signals : List SentSignal) :
    List (Timed StreamEvent) :=
  (signals.filter fun signal => signal.isAbout target).map fun signal =>
    ⟨after, .notified signal.notification⟩

end SentSignal

/-- An error that is sent instead of a reply. -/
structure RemoteError where
  name : String
  message : String
deriving DecidableEq, Repr

namespace RemoteError

def text (error : RemoteError) : String :=
  error.name ++ ": " ++ error.message

/-- The error for a destination that does not exist. -/
def serviceUnknown (message : String) : RemoteError :=
  ⟨"org.freedesktop.DBus.Error.ServiceUnknown", message⟩

def matchRuleInvalid (message : String) : RemoteError :=
  ⟨"org.freedesktop.DBus.Error.MatchRuleInvalid", message⟩

end RemoteError

/-- What a daemon and the remote object behind it do. -/
structure Daemon where
  kind : BusKind
  /-- The description of the remote object in XML. -/
  description : Except RemoteError String
  replies : List (String × MessageBody)
  errors : List (String × RemoteError)
  /-- The signals before the reply of a method. -/
  early : List (String × List SentSignal)
  /-- The signals after the reply of a method. -/
  late : List (String × List SentSignal)
  subscriptionError? : Option RemoteError
  /-- The signals that are sent once there is a subscription. -/
  greeting : List SentSignal

namespace Daemon

def replyTime : Nat :=
  1

def lateTime : Nat :=
  2

def reply (daemon : Daemon) (method : String) : Reply :=
  match daemon.errors.lookup method with
  | some error => .error error.text
  | none => .ok ((daemon.replies.lookup method).map MessageBody.values |>.getD [])

/-- The signals that arrive after a call was sent. -/
def signals (daemon : Daemon) (target : Target) (method : String) : List (Timed StreamEvent) :=
  SentSignal.arriving 0 target ((daemon.early.lookup method).getD []) ++
    SentSignal.arriving lateTime target ((daemon.late.lookup method).getD [])

/-- What the remote object publishes.  The reason why a description cannot be read stands in for
that of the library that reads it. -/
def interfaces (daemon : Daemon) : Except String (List Interface) :=
  match daemon.description with
  | .error error => .error error.text
  | .ok document =>
    match Introspection.interfaces? document with
    | some interfaces => .ok interfaces
    | none => .error "the description of the remote object cannot be read"

end Daemon

/-- A connection to a daemon, with what the subscriptions have still to read. -/
structure DaemonBus where
  daemon : Daemon
  subscriptions : Nat
  mail : List (Nat × List (Timed StreamEvent))

namespace DaemonBus

def ofDaemon (daemon : Daemon) : DaemonBus :=
  ⟨daemon, 0, []⟩

def connect (daemon? : Option Daemon) (kind : BusKind) : Except String DaemonBus :=
  match daemon?.filter fun daemon => daemon.kind == kind with
  | some daemon => .ok (ofDaemon daemon)
  | none => .error "I/O error: No such file or directory (os error 2)"

def logTarget : String :=
  "ndb_cli::transport"

def connectedReport (kind : BusKind) : Log.Event :=
  ⟨.info, logTarget, "connected to message bus", [("bus", .plain kind.name)]⟩

/-- The rule that asks the daemon for the signals of a remote object. -/
def matchRule (target : Target) : String :=
  s!"type='signal',interface='{target.interface}',path='{target.path}'"

def subscribingReport (target : Target) : Log.Event :=
  ⟨.debug, logTarget, "adding match rule", [("rule", .plain (matchRule target))]⟩

def subscribe (bus : DaemonBus) (target : Target) : Except String Nat × DaemonBus :=
  match bus.daemon.subscriptionError? with
  | some error => (.error error.text, bus)
  | none =>
    let mail := SentSignal.arriving 0 target bus.daemon.greeting
    (.ok bus.subscriptions,
      { bus with
        subscriptions := bus.subscriptions + 1
        mail := bus.mail ++ [(bus.subscriptions, mail)] })

def release (bus : DaemonBus) (subscription : Nat) : DaemonBus :=
  { bus with mail := bus.mail.filter fun entry => entry.1 != subscription }

/-- Call a method.  What was sent before is there at once. -/
def call (bus : DaemonBus) (target : Target) (call : MethodCall) : Timed Reply × DaemonBus :=
  let signals := bus.daemon.signals target call.method
  (⟨Daemon.replyTime, bus.daemon.reply call.method⟩,
    { bus with
      mail := bus.mail.map fun (subscription, earlier) =>
        (subscription, earlier.map (fun timed => ⟨0, timed.item⟩) ++ signals) })

/-- All that a subscription has still to read. -/
def stream (bus : DaemonBus) (subscription : Nat) : List (Timed StreamEvent) :=
  (bus.mail.lookup subscription).getD []

/-- A connection to a daemon as a bus for sessions. -/
def bus : Bus DaemonBus where
  introspect _ state := (state.daemon.interfaces, state)
  subscribe target state := state.subscribe target
  release subscription state := state.release subscription
  call target call state :=
    let (reply, state) := state.call target call
    (some reply, state)
  stream subscription state := state.stream subscription
  subscribing target := [subscribingReport target]

end DaemonBus

end BusBridge
