import BusBridge.Bus
import BusBridge.SessionError
import BusBridge.Waiting.SignalSet

/-!
# Waiting for a signal

A wait goes through the events of a subscription until one of them ends it: a
signal that was asked for, the end or the failure of the stream, or the limit.
Signals that were not asked for are passed over.  What falls on the same instant
as the limit still counts.
-/

namespace BusBridge

/-- The signal that ended a wait, by its short name. -/
structure Arrival where
  signal : String
  values : List Value
deriving DecidableEq, Repr

abbrev WaitResult : Type :=
  Except SessionError Arrival

/-- What a wait can meet. -/
inductive WaitEvent
  | stream (event : StreamEvent)
  | expired
deriving DecidableEq, Repr

/-- The signals that a wait asks for, and how long it may take. -/
structure Wait where
  signals : SignalSet
  limit : WaitLimit
deriving DecidableEq, Repr

namespace Wait

/-- What an event means for a wait: its end, or nothing. -/
def react (wait : Wait) : WaitEvent → Option WaitResult
  | .stream (.notified notification) =>
    if wait.signals.contains notification.shortName then
      some (.ok ⟨notification.shortName, notification.values⟩)
    else none
  | .stream (.failed reason) => some (.error (.subscription reason))
  | .stream .closed => some (.error (.subscription "notification stream closed"))
  | .expired => some (.error (.timeout wait.limit))

/-- How a wait ends that meets these events, if they end it. -/
def settle (wait : Wait) (events : List WaitEvent) : Option WaitResult :=
  events.findSome? wait.react

def logTarget : String :=
  "ndb_engine::waiter"

/-- The report about an event that a wait passes over. -/
def passingReport? : WaitEvent → Option Log.Event
  | .stream (.notified notification) =>
    some ⟨.debug, logTarget, "discarding unrequested signal",
      [("signal", .plain notification.member)]⟩
  | _ => none

/-- The reports about the events that the wait passes over before it ends. -/
def passingReports (wait : Wait) (events : List WaitEvent) : List Log.Event :=
  (events.takeWhile fun event => (wait.react event).isNone).filterMap passingReport?

/-- The events of a stream together with the limit. -/
def events (wait : Wait) (stream : List (Timed StreamEvent)) : List (Timed WaitEvent) :=
  match wait.limit.milliseconds? with
  | none => stream.map (Timed.map .stream)
  | some limit =>
    (stream.takeWhile fun timed => timed.after ≤ limit).map (Timed.map .stream) ++
      [⟨limit, .expired⟩]

/-- How and when a wait ends that meets these events. -/
def settleTimed (wait : Wait) (events : List (Timed WaitEvent)) : Option (Timed WaitResult) :=
  events.findSome? fun timed => (wait.react timed.item).map fun result => ⟨timed.after, result⟩

/-- How and when a wait ends on a stream. -/
def run (wait : Wait) (stream : List (Timed StreamEvent)) : Option (Timed WaitResult) :=
  wait.settleTimed (wait.events stream)

end Wait

end BusBridge
