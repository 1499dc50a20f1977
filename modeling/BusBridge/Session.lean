import BusBridge.Invocation
import BusBridge.Waiting.Race

/-!
# Sessions

A session is a bus together with a remote object whose interface was looked up
once.  Calls and waits are checked against that interface before the bus hears of
them: first the arguments, then the signal names, then the subscription is made,
and the call comes last.  Every subscription that an operation makes is ended when
the operation ends, however it ends; only an armed wait keeps one.  In which order the
program comes to look at a call and at the wait beside it is given with the session.
-/

namespace BusBridge

/-- How an operation ends: with a value, with a failure, or not at all. -/
inductive Outcome (α : Type)
  | done (value : α)
  | failed (error : SessionError)
  | pending
deriving Repr

namespace Outcome

/-- The outcome of something that was only computed. -/
def ofExcept {α : Type} : Except SessionError α → Outcome α
  | .ok value => done value
  | .error error => failed error

/-- The outcome of something that may never end. -/
def ofOption {α : Type} : Option (Except SessionError α) → Outcome α
  | some result => ofExcept result
  | none => pending

end Outcome

/-- A bus, a remote object on it, the interface that the object publishes, and the
scheduler of the program. -/
structure Session (σ : Type) where
  bus : Bus σ
  target : Target
  interface : Interface
  scheduler : Scheduler

/-- A wait whose names were found and whose subscription was made. -/
structure ArmedWait where
  subscription : Nat
  signals : SignalSet
deriving DecidableEq, Repr

def ArmedWait.within (armed : ArmedWait) (limit : WaitLimit) : Wait :=
  ⟨armed.signals, limit⟩

namespace Session

variable {σ : Type}

/-- The interface that a session for this remote object is about. -/
def findInterface (interfaces : List Interface) (name : String) :
    Except SessionError Interface :=
  match Interface.find? interfaces name with
  | some interface => .ok interface
  | none => .error (.interfaceNotFound name)

def resolvedReport (interface : Interface) : Log.Event :=
  ⟨.info, "ndb_engine::resolver", "resolved interface",
    [("interface", .plain interface.name), ("methods", .number interface.methods.length),
      ("signals", .number interface.signals.length)]⟩

def resolve (bus : Bus σ) (scheduler : Scheduler) (target : Target)
    (connection : Connection σ) : Except SessionError (Session σ) × Connection σ :=
  let (answer, state) := bus.introspect target connection.bus
  let connection := connection.request (.introspect target) state
  match answer with
  | .error reason => (.error (.connection reason), connection)
  | .ok interfaces =>
    match findInterface interfaces target.interface with
    | .error error => (.error error, connection)
    | .ok interface =>
      (.ok ⟨bus, target, interface, scheduler⟩, connection.report [resolvedReport interface])

/-- Succeeds if the interface has all of the signals, and otherwise names the least
one that it has not. -/
def validate (session : Session σ) (signals : SignalSet) : Except SessionError Unit :=
  match signals.names.find? fun name => !session.interface.hasSignal name with
  | some name => .error (.signalNotFound name)
  | none => .ok ()

def prepare (session : Session σ) (method : String) (tokens : List String) :
    Except SessionError PreparedCall :=
  Invocation.prepare session.interface method tokens

def callingReport (call : MethodCall) : Log.Event :=
  ⟨.debug, Invocation.logTarget, "calling remote method",
    [("method", .quoted call.method), ("arguments", .number call.arguments.length)]⟩

/-- The call that a choice of method stands for. -/
def methodCall (prepared : PreparedCall) : MethodCall :=
  ⟨prepared.method.name, prepared.arguments⟩

/-- What the bus answers to a call, and its state after it.  The reply may arrive
later. -/
def answer (session : Session σ) (call : MethodCall) (connection : Connection σ) :
    Option (Timed Reply) × σ :=
  session.bus.call session.target call connection.bus

/-- The connection after a call was sent that leaves the bus in this state. -/
def sent (session : Session σ) (call : MethodCall) (state : σ) (connection : Connection σ) :
    Connection σ :=
  (connection.report [callingReport call]).request (.call session.target call) state

/-- What the reply to a call means. -/
def replied (method : String) : Reply → Except SessionError (List Value)
  | .ok values => .ok values
  | .error reason => .error (.remoteCallFailed method reason)

def invoke (session : Session σ) (method : String) (tokens : List String)
    (connection : Connection σ) : Outcome (List Value) × Connection σ :=
  let connection := connection.report (Invocation.prepareEvents session.interface method tokens)
  match session.prepare method tokens with
  | .error error => (.failed error, connection)
  | .ok prepared =>
    let call := methodCall prepared
    let (reply?, state) := session.answer call connection
    let connection := session.sent call state connection
    match reply? with
    | none => (.pending, connection)
    | some reply => (.ofExcept (replied call.method reply.item), connection.wait reply.after)

def subscribedReport (target : Target) (signals : SignalSet) : Log.Event :=
  ⟨.debug, Wait.logTarget, "subscribed to signals",
    [("path", .plain target.path), ("interface", .plain target.interface),
      ("signals", .number signals.size)]⟩

def arm (session : Session σ) (signals : SignalSet) (connection : Connection σ) :
    Except SessionError ArmedWait × Connection σ :=
  match session.validate signals with
  | .error error => (.error error, connection)
  | .ok () =>
    let connection := connection.report (session.bus.subscribing session.target)
    match session.bus.subscribe session.target connection.bus with
    | (.error reason, state) =>
      (.error (.subscription reason), connection.request (.subscribe session.target false) state)
    | (.ok subscription, state) =>
      let connection := connection.request (.subscribe session.target true) state
      (.ok ⟨subscription, signals⟩,
        connection.report [subscribedReport session.target signals])

def release (session : Session σ) (armed : ArmedWait) (connection : Connection σ) :
    Connection σ :=
  connection.mapBus (session.bus.release armed.subscription)

/-- What an armed wait is going to meet on a bus in this state, the limit included. -/
def expected (session : Session σ) (armed : ArmedWait) (limit : WaitLimit) (state : σ) :
    List (Timed WaitEvent) :=
  (armed.within limit).events (session.bus.stream armed.subscription state)

/-- Wait for the first of the signals, and end the subscription. -/
def waitArmed (session : Session σ) (armed : ArmedWait) (limit : WaitLimit)
    (connection : Connection σ) : Outcome Arrival × Connection σ :=
  let wait := armed.within limit
  let events := session.expected armed limit connection.bus
  let connection := connection.report (wait.passingReports (events.map Timed.item))
  match wait.settleTimed events with
  | some ending => (.ofExcept ending.item, session.release armed (connection.wait ending.after))
  | none => (.pending, session.release armed connection)

def wait (session : Session σ) (signals : SignalSet) (limit : WaitLimit)
    (connection : Connection σ) : Outcome Arrival × Connection σ :=
  match session.arm signals connection with
  | (.ok armed, connection) => session.waitArmed armed limit connection
  | (.error error, connection) => (.failed error, connection)

/-- What the end of a race means. -/
def raced (method : String) : Except String CallReport → Except SessionError CallReport
  | .ok report => .ok report
  | .error reason => .error (.remoteCallFailed method reason)

/-- The order in which the program comes to look at a call and at the wait beside it. -/
def schedule (session : Session σ) (call : MethodCall) (armed : ArmedWait) (limit : WaitLimit)
    (connection : Connection σ) :
    Schedule ((session.expected armed limit (session.answer call connection).2).map Timed.item)
      ((session.answer call connection).1.map Timed.item) :=
  session.scheduler (session.expected armed limit (session.answer call connection).2)
    (session.answer call connection).1

/-- Send a call while a wait is armed, and go on until the call has failed or both
have ended.  The subscription is ended in any case.  The wait may end before the call
is sent; the call is sent nevertheless. -/
def callArmed (session : Session σ) (call : MethodCall) (armed : ArmedWait) (limit : WaitLimit)
    (connection : Connection σ) : Outcome CallReport × Connection σ :=
  let (early, ending?, reports) :=
    Race.follow call.method (armed.within limit) (session.schedule call armed limit connection)
  let state := (session.answer call connection).2
  let connection := (session.sent call state (connection.report early)).report reports
  match ending? with
  | some ending =>
    (.ofExcept (raced call.method ending.item),
      session.release armed (connection.wait ending.after))
  | none => (.pending, session.release armed connection)

def invokeOnly (session : Session σ) (method : String) (tokens : List String)
    (connection : Connection σ) : Outcome CallReport × Connection σ :=
  match session.invoke method tokens connection with
  | (.done reply, connection) => (.done ⟨reply, none⟩, connection)
  | (.failed error, connection) => (.failed error, connection)
  | (.pending, connection) => (.pending, connection)

def invokeAndWait (session : Session σ) (method : String) (tokens : List String)
    (signals : SignalSet) (limit : WaitLimit) (connection : Connection σ) :
    Outcome CallReport × Connection σ :=
  if signals.isEmpty then session.invokeOnly method tokens connection
  else
    let connection := connection.report (Invocation.prepareEvents session.interface method tokens)
    match session.prepare method tokens with
    | .error error => (.failed error, connection)
    | .ok prepared =>
      match session.arm signals connection with
      | (.ok armed, connection) =>
        session.callArmed (methodCall prepared) armed limit connection
      | (.error error, connection) => (.failed error, connection)

end Session

end BusBridge
