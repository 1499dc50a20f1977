import BusBridge.Interface
import BusBridge.Log
import BusBridge.Notification

/-!
# Message buses

What a session needs from a message bus: the description of a remote object, calls
of its methods, and subscriptions to its signals.  The state of a bus is a value;
every request gives an answer and the state after it.  Time is counted in
milliseconds from the moment of the request.
-/

namespace BusBridge

/-- The identity of a remote object, and the interface of interest. -/
structure Target where
  service : String
  path : String
  interface : String
deriving DecidableEq, Repr

namespace Target

/-- The remote object of an e-reader. -/
def nickel : Target :=
  ⟨"com.github.shermp.nickeldbus", "/nickeldbus", "com.github.shermp.nickeldbus"⟩

end Target

/-- The call of a method with its arguments. -/
structure MethodCall where
  method : String
  arguments : List Value
deriving DecidableEq, Repr

/-- What a method gives back: values, or the text of an error. -/
abbrev Reply : Type :=
  Except String (List Value)

/-- What the stream of a subscription delivers. -/
inductive StreamEvent
  | notified (notification : Notification)
  | failed (reason : String)
  | closed
deriving DecidableEq, Repr

/-- Something that happens a number of milliseconds from now. -/
structure Timed (α : Type) where
  after : Nat
  item : α
deriving DecidableEq, Repr

namespace Timed

/-- The same moment with another thing happening. -/
def map {α β : Type} (change : α → β) (timed : Timed α) : Timed β :=
  ⟨timed.after, change timed.item⟩

end Timed

/-- A message bus with states of type `σ`.  Subscriptions are numbered. -/
structure Bus (σ : Type) where
  introspect : Target → σ → Except String (List Interface) × σ
  /-- Start a subscription to the signals of a remote object. -/
  subscribe : Target → σ → Except String Nat × σ
  release : Nat → σ → σ
  /-- Call a method.  There is no reply if the call never returns. -/
  call : Target → MethodCall → σ → Option (Timed Reply) × σ
  /-- All that a subscription delivers from now on, in the order of time, if no
  method is called in the meantime. -/
  stream : Nat → σ → List (Timed StreamEvent)
  /-- What is reported when a subscription is requested. -/
  subscribing : Target → List Log.Event

/-- A request that reached the bus. -/
inductive BusRequest
  | introspect (target : Target)
  | subscribe (target : Target) (accepted : Bool)
  | call (target : Target) (call : MethodCall)
deriving DecidableEq, Repr

/-- What is written down about the work on a bus. -/
inductive JournalEntry
  | requested (request : BusRequest)
  | reported (event : Log.Event)
deriving DecidableEq, Repr

/-- A bus in use: its state, the time that has passed, and what was written down. -/
structure Connection (σ : Type) where
  bus : σ
  clock : Nat
  journal : List JournalEntry

namespace Connection

/-- The connection before anything was done with it. -/
def start {σ : Type} (bus : σ) : Connection σ :=
  ⟨bus, 0, []⟩

def report {σ : Type} (connection : Connection σ) (events : List Log.Event) : Connection σ :=
  { connection with journal := connection.journal ++ events.map .reported }

/-- Write down a request and take over the state that the bus has after it. -/
def request {σ : Type} (connection : Connection σ) (request : BusRequest) (bus : σ) :
    Connection σ :=
  { connection with bus, journal := connection.journal ++ [.requested request] }

def wait {σ : Type} (connection : Connection σ) (milliseconds : Nat) : Connection σ :=
  { connection with clock := connection.clock + milliseconds }

/-- Change the state of the bus without a request. -/
def mapBus {σ : Type} (connection : Connection σ) (change : σ → σ) : Connection σ :=
  { connection with bus := change connection.bus }

def requests {σ : Type} (connection : Connection σ) : List BusRequest :=
  connection.journal.filterMap fun
    | .requested request => some request
    | .reported _ => none

def reports {σ : Type} (connection : Connection σ) : List Log.Event :=
  connection.journal.filterMap fun
    | .requested _ => none
    | .reported event => some event

section Views

variable {σ : Type} (connection : Connection σ)

@[simp]
theorem requests_start (bus : σ) : (start bus).requests = [] :=
  rfl

@[simp]
theorem requests_report (events : List Log.Event) :
    (connection.report events).requests = connection.requests := by
  simp [requests, report, List.filterMap_append, List.filterMap_map]

@[simp]
theorem requests_request (request : BusRequest) (bus : σ) :
    (connection.request request bus).requests = connection.requests ++ [request] := by
  simp [requests, Connection.request, List.filterMap_append]

@[simp]
theorem requests_wait (milliseconds : Nat) :
    (connection.wait milliseconds).requests = connection.requests :=
  rfl

@[simp]
theorem requests_mapBus (change : σ → σ) :
    (connection.mapBus change).requests = connection.requests :=
  rfl

@[simp]
theorem reports_start (bus : σ) : (start bus).reports = [] :=
  rfl

@[simp]
theorem reports_report (events : List Log.Event) :
    (connection.report events).reports = connection.reports ++ events := by
  simp only [reports, report, List.filterMap_append, List.filterMap_map]
  exact congrArg _ List.filterMap_some

@[simp]
theorem reports_request (request : BusRequest) (bus : σ) :
    (connection.request request bus).reports = connection.reports := by
  simp [reports, Connection.request, List.filterMap_append]

@[simp]
theorem reports_wait (milliseconds : Nat) :
    (connection.wait milliseconds).reports = connection.reports :=
  rfl

@[simp]
theorem reports_mapBus (change : σ → σ) :
    (connection.mapBus change).reports = connection.reports :=
  rfl

@[simp]
theorem bus_report (events : List Log.Event) : (connection.report events).bus = connection.bus :=
  rfl

@[simp]
theorem bus_request (request : BusRequest) (bus : σ) :
    (connection.request request bus).bus = bus :=
  rfl

@[simp]
theorem bus_wait (milliseconds : Nat) : (connection.wait milliseconds).bus = connection.bus :=
  rfl

@[simp]
theorem bus_mapBus (change : σ → σ) : (connection.mapBus change).bus = change connection.bus :=
  rfl

@[simp]
theorem clock_report (events : List Log.Event) :
    (connection.report events).clock = connection.clock :=
  rfl

@[simp]
theorem clock_request (request : BusRequest) (bus : σ) :
    (connection.request request bus).clock = connection.clock :=
  rfl

@[simp]
theorem clock_wait (milliseconds : Nat) :
    (connection.wait milliseconds).clock = connection.clock + milliseconds :=
  rfl

@[simp]
theorem clock_mapBus (change : σ → σ) : (connection.mapBus change).clock = connection.clock :=
  rfl

end Views

end Connection

end BusBridge
