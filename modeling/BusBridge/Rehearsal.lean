import BusBridge.ScriptedBus
import BusBridge.Session

/-!
# Rehearsals

A rehearsal is a session on a scripted bus that is taken through a list of steps.
Armed waits are kept under names between the steps.  A step that has not ended
after a very long time is given up: it ends its subscriptions and leaves no result.
-/

namespace BusBridge

inductive RehearsalStep
  | invoke (method : String) (tokens : List String)
  | wait (signals : SignalSet) (limit : WaitLimit)
  | invokeAndWait (method : String) (tokens : List String) (signals : SignalSet)
      (limit : WaitLimit)
  | validate (signals : SignalSet)
  | prepare (method : String) (tokens : List String)
  | arm (name : String) (signals : SignalSet)
  | waitArmed (name : String) (limit : WaitLimit)
  | drop (name : String)
  | sleep (milliseconds : Nat)

inductive StepResult
  | reply (values : List Value)
  | arrival (arrival : Arrival)
  | report (report : CallReport)
  | valid
  | prepared (call : PreparedCall)
  | armed
  | dropped
  | slept
  | notArmed

/-- A session on a scripted bus, and the armed waits that are kept. -/
structure Rehearsal where
  session : Session ScriptedBus
  connection : Connection ScriptedBus
  armed : List (String × ArmedWait)

namespace Rehearsal

/-- After so many milliseconds a step is given up. -/
def horizon : Nat :=
  1000000 * 1000

/-- Turn the value of an outcome into the result of a step. -/
def finish {α : Type} (result : α → StepResult) : Outcome α → Outcome StepResult
  | .done value => .done (result value)
  | .failed error => .failed error
  | .pending => .pending

/-- Apply an operation of the session to the connection. -/
def perform {α : Type} (rehearsal : Rehearsal) (result : α → StepResult)
    (operation : Connection ScriptedBus → Outcome α × Connection ScriptedBus) :
    Outcome StepResult × Rehearsal :=
  let (outcome, connection) := operation rehearsal.connection
  (finish result outcome, { rehearsal with connection })

def armed? (rehearsal : Rehearsal) (name : String) : Option ArmedWait :=
  rehearsal.armed.lookup name

/-- Give up the armed wait of a name, without ending its subscription. -/
def forget (rehearsal : Rehearsal) (name : String) : Rehearsal :=
  { rehearsal with armed := rehearsal.armed.filter fun entry => entry.1 != name }

/-- End the subscription of the armed wait of a name, if there is one. -/
def discard (rehearsal : Rehearsal) (name : String) : Rehearsal :=
  match rehearsal.armed? name with
  | none => rehearsal
  | some armed =>
    { rehearsal.forget name with
      connection := rehearsal.session.release armed rehearsal.connection }

/-- Keep an armed wait under a name, in place of the one that had it. -/
def keep (rehearsal : Rehearsal) (name : String) (armed : ArmedWait) : Rehearsal :=
  let rehearsal := rehearsal.discard name
  { rehearsal with armed := rehearsal.armed ++ [(name, armed)] }

def arm (rehearsal : Rehearsal) (name : String) (signals : SignalSet) :
    Outcome StepResult × Rehearsal :=
  match rehearsal.session.arm signals rehearsal.connection with
  | (.ok armed, connection) => (.done .armed, { rehearsal with connection }.keep name armed)
  | (.error error, connection) => (.failed error, { rehearsal with connection })

/-- Take one step, however long it takes. -/
def attempt (rehearsal : Rehearsal) : RehearsalStep → Outcome StepResult × Rehearsal
  | .invoke method tokens => rehearsal.perform .reply (rehearsal.session.invoke method tokens)
  | .wait signals limit => rehearsal.perform .arrival (rehearsal.session.wait signals limit)
  | .invokeAndWait method tokens signals limit =>
    rehearsal.perform .report (rehearsal.session.invokeAndWait method tokens signals limit)
  | .validate signals =>
    (finish (fun _ => .valid) (.ofExcept (rehearsal.session.validate signals)), rehearsal)
  | .prepare method tokens =>
    (finish .prepared (.ofExcept (rehearsal.session.prepare method tokens)), rehearsal)
  | .arm name signals => rehearsal.arm name signals
  | .waitArmed name limit =>
    match rehearsal.armed? name with
    | none => (.done .notArmed, rehearsal)
    | some armed =>
      (rehearsal.forget name).perform .arrival (rehearsal.session.waitArmed armed limit)
  | .drop name => (.done .dropped, rehearsal.discard name)
  | .sleep milliseconds =>
    (.done .slept, { rehearsal with connection := rehearsal.connection.wait milliseconds })

/-- The answer to a step, with the time that it took if it ended in time, and the
rehearsal after it. -/
def step (rehearsal : Rehearsal) (step : RehearsalStep) :
    Option (Nat × Except SessionError StepResult) × Rehearsal :=
  let (outcome, next) := rehearsal.attempt step
  let elapsed := next.connection.clock - rehearsal.connection.clock
  if horizon < elapsed then (none, next)
  else match outcome with
    | .done result => (some (elapsed, .ok result), next)
    | .failed error => (some (elapsed, .error error), next)
    | .pending => (none, next)

def start (script : Script) (target : Target) :
    Except SessionError Rehearsal × Connection ScriptedBus :=
  match Session.resolve ScriptedBus.bus .callFirst target (.start (.ofScript script)) with
  | (.ok session, connection) => (.ok ⟨session, connection, []⟩, connection)
  | (.error error, connection) => (.error error, connection)

end Rehearsal

end BusBridge
