import BusBridge.Waiting.Schedule

/-!
# A call together with a wait

A method is called while a wait for one of its signals is already running.  The
program looks at the call and at the wait in turns; whichever it finds ended first,
it goes on with the other.  The race is over when the call has failed, or when both
have ended; the order in which they end decides only about what is reported.
-/

namespace BusBridge

/-- What a call and the wait beside it give. -/
structure CallReport where
  reply : List Value
  /-- How the wait ended, if there was one. -/
  wait? : Option WaitResult

/-- How far the call and the wait have come. -/
inductive Race
  | running
  | replied (reply : List Value)
  | waited (result : WaitResult)
  /-- Both have ended, or the call has failed. -/
  | finished (result : Except String CallReport)

namespace Race

def logTarget : String :=
  "ndb_engine::session"

/-- The report about a call that returned before the wait ended. -/
def repliedReport (method : String) : Log.Event :=
  ⟨.debug, logTarget, "call returned, waiting for signal", [("method", .quoted method)]⟩

/-- The report about a wait that failed before the call returned. -/
def waitedReports (method : String) : WaitResult → List Log.Event
  | .ok _ => []
  | .error error =>
    [⟨.warn, logTarget, "signal wait ended before the call returned",
      [("method", .quoted method), ("error", .plain error.message)]⟩]

/-- What a look changes, and what is reported about it.  A call or a wait that has
ended is not looked at again. -/
def look (method : String) (wait : Wait) (race : Race) : Look → Race × List Log.Event
  | .call none => (race, [])
  | .call (some (.ok reply)) =>
    match race with
    | .running => (.replied reply, [repliedReport method])
    | .waited result => (.finished (.ok ⟨reply, some result⟩), [])
    | _ => (race, [])
  | .call (some (.error reason)) =>
    match race with
    | .running | .waited _ => (.finished (.error reason), [])
    | _ => (race, [])
  | .wait events =>
    match race, wait.settle events with
    | .running, none => (.running, wait.passingReports events)
    | .running, some result =>
      (.waited result, wait.passingReports events ++ waitedReports method result)
    | .replied reply, none => (.replied reply, wait.passingReports events)
    | .replied reply, some result =>
      (.finished (.ok ⟨reply, some result⟩), wait.passingReports events)
    | _, _ => (race, [])

/-- One look after the other. -/
def lookAll (method : String) (wait : Wait) (race : Race) : List Look → Race × List Log.Event
  | [] => (race, [])
  | first :: others =>
    let (next, reports) := look method wait race first
    let (last, further) := lookAll method wait next others
    (last, reports ++ further)

def step (method : String) (wait : Wait) (race : Race) (turn : Turn) : Race × List Log.Event :=
  lookAll method wait race turn.looks

def result? : Race → Option (Except String CallReport)
  | finished result => some result
  | _ => none

/-- Take turns until the race is over.  The result is the state after the last turn
that was needed, with its time, and the reports. -/
def run (method : String) (wait : Wait) (race : Race) :
    List (Timed Turn) → Option (Timed (Except String CallReport)) × List Log.Event
  | [] => (none, [])
  | turn :: turns =>
    let (next, reports) := step method wait race turn.item
    match next.result? with
    | some result => (some ⟨turn.after, result⟩, reports)
    | none =>
      let (ending, further) := run method wait next turns
      (ending, reports ++ further)

/-- The reports before the call is sent, how the race ends, and the reports after
that. -/
def follow (method : String) (wait : Wait) {events : List WaitEvent} {reply? : Option Reply}
    (schedule : Schedule events reply?) :
    List Log.Event × Option (Timed (Except String CallReport)) × List Log.Event :=
  let (race, early) := look method wait .running (.wait schedule.early)
  let (ending?, reports) := run method wait race schedule.turns
  (early, ending?, reports)

end Race

end BusBridge
