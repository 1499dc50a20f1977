import BusBridge.Rehearsal

/-!
# Steps that are given up

Whoever rehearses has so much patience with each step.  A step that has not ended by then
is given up while it waits for something: a reply, a signal, or the end of a pause.  What
it holds for itself at that moment, the subscription of its own wait, is ended with it.
-/

namespace BusBridge

namespace Session

variable {σ : Type} (session : Session σ)

/-- A call that was sent and whose reply is awaited, unless no method takes the tokens. -/
def calling? (method : String) (tokens : List String) (connection : Connection σ) :
    Option (Connection σ) :=
  let connection := connection.report (Invocation.prepareEvents session.interface method tokens)
  match session.prepare method tokens with
  | .error _ => none
  | .ok prepared =>
    let call := methodCall prepared
    some (session.sent call (session.answer call connection).2 connection)

/-- A wait that was armed and is going on. -/
def waiting? (signals : SignalSet) (connection : Connection σ) :
    Option (ArmedWait × Connection σ) :=
  match session.arm signals connection with
  | (.ok armed, connection) => some (armed, connection)
  | (.error _, _) => none

/-- A call that was sent beside a wait that is going on. -/
def callingArmed? (method : String) (tokens : List String) (signals : SignalSet)
    (connection : Connection σ) : Option (ArmedWait × Connection σ) :=
  let connection := connection.report (Invocation.prepareEvents session.interface method tokens)
  match session.prepare method tokens with
  | .error _ => none
  | .ok prepared =>
    let call := methodCall prepared
    (session.waiting? signals connection).map fun (armed, connection) =>
      (armed, session.sent call (session.answer call connection).2 connection)

end Session

structure PausedStep where
  rehearsal : Rehearsal
  /-- The armed wait that the step holds for itself. -/
  held? : Option ArmedWait

namespace PausedStep

/-- The rehearsal after the step was given up, so many milliseconds after it began. -/
def abandon (paused : PausedStep) (milliseconds : Nat) : Rehearsal :=
  let connection := match paused.held? with
    | none => paused.rehearsal.connection
    | some armed => paused.rehearsal.session.release armed paused.rehearsal.connection
  { paused.rehearsal with connection := connection.wait milliseconds }

end PausedStep

namespace Rehearsal

/-- The step when it waits for something, if it ever does. -/
def pause? (rehearsal : Rehearsal) : RehearsalStep → Option PausedStep
  | .invoke method tokens =>
    (rehearsal.session.calling? method tokens rehearsal.connection).map fun connection =>
      ⟨{ rehearsal with connection }, none⟩
  | .wait signals _ =>
    (rehearsal.session.waiting? signals rehearsal.connection).map fun (armed, connection) =>
      ⟨{ rehearsal with connection }, some armed⟩
  | .invokeAndWait method tokens signals _ =>
    if signals.isEmpty then
      (rehearsal.session.calling? method tokens rehearsal.connection).map fun connection =>
        ⟨{ rehearsal with connection }, none⟩
    else
      (rehearsal.session.callingArmed? method tokens signals rehearsal.connection).map
        fun (armed, connection) => ⟨{ rehearsal with connection }, some armed⟩
  | .waitArmed name _ =>
    (rehearsal.armed? name).map fun armed => ⟨rehearsal.forget name, some armed⟩
  | .sleep _ => some ⟨rehearsal, none⟩
  | .validate _ | .prepare _ _ | .arm _ _ | .drop _ => none

/-- The rehearsal after a step was given up.  One that never waits has ended before. -/
def giveUp (rehearsal : Rehearsal) (step : RehearsalStep) (patience : Nat) : Rehearsal :=
  match rehearsal.pause? step with
  | some paused => paused.abandon patience
  | none => (rehearsal.attempt step).2

/-- The answer to a step with its time, if it ends within so many milliseconds, and the
rehearsal after it.  If it does not end it is given up. -/
def stepWithin (rehearsal : Rehearsal) (step : RehearsalStep) (patience : Nat) :
    Option (Nat × Except SessionError StepResult) × Rehearsal :=
  let (outcome, next) := rehearsal.attempt step
  let elapsed := next.connection.clock - rehearsal.connection.clock
  if patience < elapsed then (none, rehearsal.giveUp step patience)
  else match outcome with
    | .done result => (some (elapsed, .ok result), next)
    | .failed error => (some (elapsed, .error error), next)
    | .pending => (none, rehearsal.giveUp step patience)

/-- One step after the other, each with the patience for it. -/
def afterAll (rehearsal : Rehearsal) (steps : List (RehearsalStep × Nat)) : Rehearsal :=
  steps.foldl (fun rehearsal step => (rehearsal.stepWithin step.1 step.2).2) rehearsal

/-- The same rehearsal of a program with another scheduler. -/
def scheduledBy (rehearsal : Rehearsal) (scheduler : Scheduler) : Rehearsal :=
  { rehearsal with session := { rehearsal.session with scheduler } }

end Rehearsal

end BusBridge
