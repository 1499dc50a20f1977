import BusBridge.Proofs.Session
import BusBridge.Rehearsal.Patience
import BusBridge.ScriptedBus.Usage

/-!
# What the steps of a rehearsal do with the bus

Every step comes down to a few operations of the bus: at most one subscription is made,
at most one method is called, and what the step held for itself is ended last.  They are
the same whether the step succeeds, fails, or is given up while it waits.
-/

namespace BusBridge

namespace ScriptedBus

/-- The scripted bus with another way in which subscriptions are ended. -/
def endingBy (ended : Nat → ScriptedBus → ScriptedBus) : Bus ScriptedBus :=
  { bus with release := ended }

/-- A bus after an operation, if subscriptions are ended in this way. -/
def performBy (ended : Nat → ScriptedBus → ScriptedBus) (bus : ScriptedBus) :
    BusOperation → ScriptedBus
  | .drop subscription => ended subscription bus
  | operation => (bus.perform operation).1

def afterAllBy (ended : Nat → ScriptedBus → ScriptedBus) (bus : ScriptedBus)
    (operations : List BusOperation) : ScriptedBus :=
  operations.foldl (performBy ended) bus

theorem bus_eq_endingBy : bus = endingBy (flip release) :=
  rfl

theorem afterAllBy_release (bus : ScriptedBus) (operations : List BusOperation) :
    bus.afterAllBy (flip release) operations = bus.afterAll operations := by
  rw [afterAllBy, afterAll]
  congr 1
  funext bus operation
  cases operation <;> rfl

end ScriptedBus

section Operations

variable (session : Session ScriptedBus) (bus : ScriptedBus)

/-- What is done with the bus to call a method. -/
def Session.callOperations (method : String) (tokens : List String) : List BusOperation :=
  match session.prepare method tokens with
  | .error _ => []
  | .ok prepared => [.call (methodCall prepared) fun _ => []]

/-- What is done with the bus to arm a wait and to go on with its subscription. -/
def Session.armOperations (signals : SignalSet) (further : Nat → List BusOperation) :
    List BusOperation :=
  match session.validate signals, bus.subscribe.1 with
  | .error _, _ => []
  | .ok (), .error _ => [.subscribe]
  | .ok (), .ok subscription => .subscribe :: further subscription

/-- What is done with the bus to call a method beside a wait, if there are signals to wait
for. -/
def Session.callBesideOperations (method : String) (tokens : List String)
    (signals : SignalSet) : List BusOperation :=
  if signals.isEmpty then session.callOperations method tokens
  else match session.prepare method tokens with
    | .error _ => []
    | .ok prepared =>
      session.armOperations bus signals fun subscription =>
        [.call (methodCall prepared) fun _ => [], .drop subscription]

end Operations

namespace Rehearsal

def dropOperations (rehearsal : Rehearsal) (name : String) : List BusOperation :=
  (rehearsal.armed? name).toList.map fun armed => .drop armed.subscription

/-- What a step does with the bus until it ends or is given up. -/
def operations (rehearsal : Rehearsal) : RehearsalStep → List BusOperation
  | .invoke method tokens => rehearsal.session.callOperations method tokens
  | .wait signals _ =>
    rehearsal.session.armOperations rehearsal.connection.bus signals
      fun subscription => [.drop subscription]
  | .invokeAndWait method tokens signals _ =>
    rehearsal.session.callBesideOperations rehearsal.connection.bus method tokens signals
  | .arm name signals =>
    rehearsal.session.armOperations rehearsal.connection.bus signals
      fun _ => rehearsal.dropOperations name
  | .waitArmed name _ | .drop name => rehearsal.dropOperations name
  | .validate _ | .prepare _ _ | .sleep _ => []

/-- The armed waits that are kept without the one of a name. -/
def others (rehearsal : Rehearsal) (name : String) : List (String × ArmedWait) :=
  rehearsal.armed.filter fun entry => entry.1 != name

/-- The armed waits that are kept after a step. -/
def keptAfter (rehearsal : Rehearsal) : RehearsalStep → List (String × ArmedWait)
  | .arm name signals =>
    match rehearsal.session.validate signals, rehearsal.connection.bus.subscribe.1 with
    | .ok (), .ok subscription => rehearsal.others name ++ [(name, ⟨subscription, signals⟩)]
    | _, _ => rehearsal.armed
  | .waitArmed name _ | .drop name => rehearsal.others name
  | _ => rehearsal.armed

/-- The second rehearsal is the first after the operations of a step, on a bus where
subscriptions are ended in this way. -/
structure Took (before : Rehearsal) (ended : Nat → ScriptedBus → ScriptedBus)
    (step : RehearsalStep) (after : Rehearsal) : Prop where
  session_eq : after.session = before.session
  bus_eq : after.connection.bus = before.connection.bus.afterAllBy ended (before.operations step)
  armed_eq : after.armed = before.keptAfter step

end Rehearsal

namespace Session

section Scripted

variable {session : Session ScriptedBus} {ended : Nat → ScriptedBus → ScriptedBus}
  (scripted : session.bus = ScriptedBus.endingBy ended)
  (connection : Connection ScriptedBus)

include scripted

theorem bus_answer (call : MethodCall) :
    (session.answer call connection).2 =
      connection.bus.afterAllBy ended [.call call fun _ => []] := by
  rw [answer, scripted]
  change (connection.bus.call call).2 = connection.bus.callWhile call fun _ => []
  rw [ScriptedBus.callWhile_nil]

theorem bus_release (armed : ArmedWait) :
    (session.release armed connection).bus =
      connection.bus.afterAllBy ended [.drop armed.subscription] := by
  rw [release, scripted]
  rfl

theorem bus_invoke (method : String) (tokens : List String) :
    (session.invoke method tokens connection).2.bus =
      connection.bus.afterAllBy ended (session.callOperations method tokens) := by
  rw [callOperations]
  cases chosen : session.prepare method tokens with
  | error error => exact (invoke_of_prepare_eq_error connection chosen).2.bus_eq
  | ok prepared =>
      have reached := invoke_of_prepare_eq_ok connection chosen
      exact reached.bus_eq.trans (bus_answer scripted connection (methodCall prepared))

/-- The three ways in which arming ends, with what it leaves on the bus. -/
theorem arm_cases (signals : SignalSet) :
    (∃ error, session.validate signals = .error error ∧
        session.arm signals connection = (.error error, connection)) ∨
      (∃ reason, session.validate signals = .ok () ∧
        connection.bus.subscribe.1 = .error reason ∧
        (session.arm signals connection).1 = .error (.subscription reason) ∧
        (session.arm signals connection).2.bus = connection.bus.subscribe.2) ∨
      ∃ subscription, session.validate signals = .ok () ∧
        connection.bus.subscribe.1 = .ok subscription ∧
        (session.arm signals connection).1 = .ok ⟨subscription, signals⟩ ∧
        (session.arm signals connection).2.bus = connection.bus.subscribe.2 := by
  have subscribes : session.bus.subscribe session.target connection.bus =
      connection.bus.subscribe := by
    rw [scripted]
    rfl
  cases known : session.validate signals with
  | error error => exact .inl ⟨error, rfl, arm_of_validate_eq_error connection known⟩
  | ok =>
      right
      cases asked : connection.bus.subscribe.1 with
      | error reason =>
          obtain ⟨arms, reached⟩ :=
            arm_of_refused connection known ((congrArg Prod.fst subscribes).trans asked)
          rw [subscribes] at reached
          exact .inl ⟨reason, rfl, rfl, arms, reached.bus_eq⟩
      | ok subscription =>
          obtain ⟨arms, reached⟩ :=
            arm_of_accepted connection known ((congrArg Prod.fst subscribes).trans asked)
          rw [subscribes] at reached
          exact .inr ⟨subscription, rfl, rfl, arms, reached.bus_eq⟩

/-- What goes on after arming comes after the subscription. -/
theorem bus_armThen {α : Type} {signals : SignalSet}
    {go : ArmedWait → Connection ScriptedBus → Outcome α × Connection ScriptedBus}
    {further : Nat → List BusOperation}
    (goes : ∀ subscription ready, (go ⟨subscription, signals⟩ ready).2.bus =
      ready.bus.afterAllBy ended (further subscription)) :
    (session.armThen signals go connection).2.bus =
      connection.bus.afterAllBy ended (session.armOperations connection.bus signals further) := by
  obtain ⟨error, unknown, arms⟩ | ⟨reason, known, refused, arms, left⟩ |
    ⟨subscription, known, accepted, arms, left⟩ := arm_cases scripted connection signals
  · rw [armThen, arms, armOperations, unknown]
    rfl
  · rw [(armThen_of_arm_eq_error connection go arms).2, left, armOperations, known, refused]
    rfl
  · rw [armThen_of_arm_eq_ok connection go arms, goes, left, armOperations, known, accepted]
    rfl

theorem bus_waitArmed (armed : ArmedWait) (limit : WaitLimit) :
    (session.waitArmed armed limit connection).2.bus =
      connection.bus.afterAllBy ended [.drop armed.subscription] := by
  rw [(session.reached_waitArmed armed limit connection).bus_eq, scripted]
  rfl

theorem bus_callArmed (call : MethodCall) (armed : ArmedWait) (limit : WaitLimit) :
    (session.callArmed call armed limit connection).2.bus =
      connection.bus.afterAllBy ended [.call call fun _ => [], .drop armed.subscription] := by
  rw [(session.reached_callArmed call armed limit connection).bus_eq,
    bus_answer scripted connection call, scripted]
  rfl

theorem bus_invokeAndWait (method : String) (tokens : List String) (signals : SignalSet)
    (limit : WaitLimit) :
    (session.invokeAndWait method tokens signals limit connection).2.bus =
      connection.bus.afterAllBy ended
        (session.callBesideOperations connection.bus method tokens signals) := by
  rw [callBesideOperations]
  cases asked : signals.isEmpty with
  | true =>
      rw [invokeAndWait, if_pos asked, if_pos rfl, invokeOnly_snd]
      exact bus_invoke scripted connection method tokens
  | false =>
      rw [if_neg Bool.false_ne_true]
      cases chosen : session.prepare method tokens with
      | error error =>
          rw [invokeAndWait, asked, if_neg Bool.false_ne_true, chosen]
          rfl
      | ok prepared =>
          rw [invokeAndWait_eq_armThen connection limit asked chosen]
          exact bus_armThen scripted _ fun subscription ready =>
            bus_callArmed scripted ready (methodCall prepared) ⟨subscription, signals⟩ limit

variable {connection} {signals : SignalSet} {method : String} {tokens : List String}

theorem bus_of_calling? {called : Connection ScriptedBus}
    (paused : session.calling? method tokens connection = some called) :
    called.bus = connection.bus.afterAllBy ended (session.callOperations method tokens) := by
  rw [calling?] at paused
  rw [callOperations]
  cases chosen : session.prepare method tokens with
  | error error =>
      rw [chosen] at paused
      cases paused
  | ok prepared =>
      rw [chosen] at paused
      obtain rfl := Option.some.inj paused
      exact bus_answer scripted _ (methodCall prepared)

theorem armOperations_of_waiting? {armed : ArmedWait} {ready : Connection ScriptedBus}
    (paused : session.waiting? signals connection = some (armed, ready))
    (further : Nat → List BusOperation) :
    ready.bus.afterAllBy ended (further armed.subscription) =
      connection.bus.afterAllBy ended (session.armOperations connection.bus signals further) := by
  rw [waiting?] at paused
  obtain ⟨error, unknown, arms⟩ | ⟨reason, known, refused, arms, left⟩ |
    ⟨subscription, known, accepted, arms, left⟩ := arm_cases scripted connection signals
  · rw [arms] at paused
    cases paused
  · rw [show session.arm signals connection = (_, _) from Prod.ext arms rfl] at paused
    cases paused
  · rw [show session.arm signals connection = (_, _) from Prod.ext arms rfl] at paused
    obtain ⟨rfl, rfl⟩ := Prod.mk.inj (Option.some.inj paused)
    rw [left, armOperations, known, accepted]
    rfl

theorem bus_of_callingArmed? {armed : ArmedWait} {called : Connection ScriptedBus}
    (asked : signals.isEmpty = false)
    (paused : session.callingArmed? method tokens signals connection = some (armed, called)) :
    (session.release armed called).bus = connection.bus.afterAllBy ended
      (session.callBesideOperations connection.bus method tokens signals) := by
  rw [callingArmed?] at paused
  rw [callBesideOperations, asked, if_neg Bool.false_ne_true]
  cases chosen : session.prepare method tokens with
  | error error =>
      rw [chosen] at paused
      cases paused
  | ok prepared =>
      rw [chosen] at paused
      obtain ⟨⟨armed, ready⟩, waits, same⟩ := Option.map_eq_some_iff.mp paused
      obtain ⟨rfl, rfl⟩ := Prod.mk.inj same
      rw [bus_release scripted, bus_sent, bus_answer scripted]
      exact armOperations_of_waiting? scripted waits
        fun subscription => [.call (methodCall prepared) fun _ => [], .drop subscription]

end Scripted

end Session

namespace Rehearsal

variable {rehearsal : Rehearsal}

theorem others_of_armed?_eq_none {name : String} (unknown : rehearsal.armed? name = none) :
    rehearsal.others name = rehearsal.armed := by
  rw [armed?, List.lookup_eq_none_iff] at unknown
  rw [others, List.filter_eq_self]
  intro entry member
  have different := unknown entry member
  simpa [bne, Bool.beq_comm] using different

theorem discard_eq (name : String) :
    (rehearsal.discard name).session = rehearsal.session ∧
      (rehearsal.discard name).armed = rehearsal.others name := by
  rw [discard]
  cases found : rehearsal.armed? name with
  | none => exact ⟨rfl, (others_of_armed?_eq_none found).symm⟩
  | some armed => exact ⟨rfl, rfl⟩

section Scripted

variable {ended : Nat → ScriptedBus → ScriptedBus}
  (scripted : rehearsal.session.bus = ScriptedBus.endingBy ended)

include scripted

theorem bus_discard (name : String) :
    (rehearsal.discard name).connection.bus =
      rehearsal.connection.bus.afterAllBy ended (rehearsal.dropOperations name) := by
  rw [discard, dropOperations]
  cases rehearsal.armed? name with
  | none => rfl
  | some armed => exact Session.bus_release scripted rehearsal.connection armed

theorem took_arm (name : String) (signals : SignalSet) :
    rehearsal.Took ended (.arm name signals) (rehearsal.arm name signals).2 := by
  obtain ⟨error, unknown, arms⟩ | ⟨reason, known, refused, arms, left⟩ |
    ⟨subscription, known, accepted, arms, left⟩ :=
      Session.arm_cases scripted rehearsal.connection signals
  · rw [arm, arms]
    refine ⟨rfl, ?_, ?_⟩
    · rw [operations, Session.armOperations, unknown]
      rfl
    · rw [keptAfter, unknown]
  · rw [arm, show rehearsal.session.arm signals rehearsal.connection = (_, _) from
      Prod.ext arms rfl]
    refine ⟨rfl, ?_, ?_⟩
    · rw [operations, Session.armOperations, known, refused]
      exact left
    · rw [keptAfter, known, refused]
  · rw [arm, show rehearsal.session.arm signals rehearsal.connection = (_, _) from
      Prod.ext arms rfl]
    let ready : Rehearsal :=
      { rehearsal with connection := (rehearsal.session.arm signals rehearsal.connection).2 }
    obtain ⟨session, others⟩ := ready.discard_eq name
    refine ⟨session, ?_, ?_⟩
    · rw [operations, Session.armOperations, known, accepted]
      have still : ready.session.bus = ScriptedBus.endingBy ended := scripted
      refine (bus_discard still name).trans ?_
      change (rehearsal.session.arm signals rehearsal.connection).2.bus.afterAllBy ended _ = _
      rw [left]
      rfl
    · rw [keptAfter, known, accepted]
      change (ready.discard name).armed ++ _ = _
      rw [others]
      rfl

theorem took_attempt (step : RehearsalStep) :
    rehearsal.Took ended step (rehearsal.attempt step).2 := by
  cases step with
  | invoke method tokens =>
      exact ⟨rfl, Session.bus_invoke scripted rehearsal.connection method tokens, rfl⟩
  | wait signals limit =>
      refine ⟨rfl, ?_, rfl⟩
      exact Session.bus_armThen scripted rehearsal.connection
        fun subscription ready => Session.bus_waitArmed scripted ready ⟨subscription, signals⟩ limit
  | invokeAndWait method tokens signals limit =>
      exact ⟨rfl, Session.bus_invokeAndWait scripted rehearsal.connection method tokens signals
        limit, rfl⟩
  | validate signals => exact ⟨rfl, rfl, rfl⟩
  | prepare method tokens => exact ⟨rfl, rfl, rfl⟩
  | arm name signals => exact took_arm scripted name signals
  | waitArmed name limit =>
      rw [attempt]
      cases found : rehearsal.armed? name with
      | none =>
          refine ⟨rfl, ?_, (others_of_armed?_eq_none found).symm⟩
          rw [operations, dropOperations, found]
          rfl
      | some armed =>
          refine ⟨rfl, ?_, rfl⟩
          rw [operations, dropOperations, found]
          exact Session.bus_waitArmed scripted rehearsal.connection armed limit
  | drop name =>
      obtain ⟨session, armed⟩ := rehearsal.discard_eq name
      exact ⟨session, bus_discard scripted name, armed⟩
  | sleep milliseconds => exact ⟨rfl, rfl, rfl⟩

/-- A step that is given up leaves the bus as it would have done in the end. -/
theorem took_giveUp (step : RehearsalStep) (patience : Nat) :
    rehearsal.Took ended step (rehearsal.giveUp step patience) := by
  rw [giveUp]
  cases waits : rehearsal.pause? step with
  | none => exact took_attempt scripted step
  | some paused =>
      -- At the pause all is done but the end of the subscription that the step holds, and
      -- giving the step up ends that one.
      cases step with
      | invoke method tokens =>
          obtain ⟨called, calls, rfl⟩ := Option.map_eq_some_iff.mp waits
          have left := Session.bus_of_calling? scripted calls
          exact ⟨rfl, left, rfl⟩
      | wait signals limit =>
          obtain ⟨⟨armed, ready⟩, arms, rfl⟩ := Option.map_eq_some_iff.mp waits
          refine ⟨rfl, ?_, rfl⟩
          exact (Session.bus_release scripted ready armed).trans
            (Session.armOperations_of_waiting? scripted arms fun subscription =>
              [.drop subscription])
      | invokeAndWait method tokens signals limit =>
          rw [pause?] at waits
          cases asked : signals.isEmpty with
          | true =>
              rw [if_pos asked] at waits
              obtain ⟨called, calls, rfl⟩ := Option.map_eq_some_iff.mp waits
              have left := Session.bus_of_calling? scripted calls
              refine ⟨rfl, ?_, rfl⟩
              rw [operations, Session.callBesideOperations, if_pos asked]
              exact left
          | false =>
              rw [asked, if_neg Bool.false_ne_true] at waits
              obtain ⟨⟨armed, called⟩, calls, rfl⟩ := Option.map_eq_some_iff.mp waits
              exact ⟨rfl, Session.bus_of_callingArmed? scripted asked calls, rfl⟩
      | waitArmed name limit =>
          obtain ⟨armed, found, rfl⟩ := Option.map_eq_some_iff.mp waits
          refine ⟨rfl, ?_, rfl⟩
          rw [operations, dropOperations, found]
          exact Session.bus_release scripted rehearsal.connection armed
      | sleep milliseconds =>
          obtain rfl := Option.some.inj waits
          exact ⟨rfl, rfl, rfl⟩
      | validate signals => cases waits
      | prepare method tokens => cases waits
      | arm name signals => cases waits
      | drop name => cases waits

theorem took_stepWithin (step : RehearsalStep) (patience : Nat) :
    rehearsal.Took ended step (rehearsal.stepWithin step patience).2 := by
  rw [stepWithin]
  dsimp only
  split
  · exact took_giveUp scripted step patience
  · cases (rehearsal.attempt step).1 with
    | done result => exact took_attempt scripted step
    | failed error => exact took_attempt scripted step
    | pending => exact took_giveUp scripted step patience

/-- Within the patience of a rehearsal a step gives the same, and leaves the same bus and
the same armed waits. -/
theorem step_eq_stepWithin (step : RehearsalStep) :
    (rehearsal.step step).1 = (rehearsal.stepWithin step horizon).1 ∧
      (rehearsal.step step).2.connection.bus =
        (rehearsal.stepWithin step horizon).2.connection.bus ∧
      (rehearsal.step step).2.armed = (rehearsal.stepWithin step horizon).2.armed := by
  have taken : (rehearsal.step step).2 = (rehearsal.attempt step).2 := by
    rw [Rehearsal.step]
    dsimp only
    split
    · rfl
    · cases (rehearsal.attempt step).1 <;> rfl
  have attempted := took_attempt scripted step
  have within := took_stepWithin scripted step horizon
  refine ⟨?_, ?_, ?_⟩
  · rw [Rehearsal.step, stepWithin]
    dsimp only
    split
    · rfl
    · cases (rehearsal.attempt step).1 <;> rfl
  · rw [taken, attempted.bus_eq, within.bus_eq]
  · rw [taken, attempted.armed_eq, within.armed_eq]

end Scripted

section GivingUp

theorem clock_discard (name : String) :
    (rehearsal.discard name).connection.clock = rehearsal.connection.clock := by
  rw [discard]
  cases rehearsal.armed? name <;> rfl

variable {method : String} {tokens : List String} {signals : SignalSet}
  {connection : Connection ScriptedBus}

theorem ended_of_calling?_eq_none {session : Session ScriptedBus}
    (never : session.calling? method tokens connection = none) :
    ∃ error, (session.invoke method tokens connection).1 = .failed error ∧
      (session.invoke method tokens connection).2.clock = connection.clock := by
  rw [Session.calling?] at never
  rw [Session.invoke]
  cases chosen : session.prepare method tokens with
  | error error => exact ⟨error, rfl, rfl⟩
  | ok prepared =>
      rw [chosen] at never
      cases never

theorem ended_of_waiting?_eq_none {session : Session ScriptedBus} {α : Type}
    (go : ArmedWait → Connection ScriptedBus → Outcome α × Connection ScriptedBus)
    (never : session.waiting? signals connection = none) :
    ∃ error, (session.armThen signals go connection).1 = .failed error ∧
      (session.armThen signals go connection).2.clock = connection.clock := by
  have clock := session.clock_arm connection signals
  rw [Session.waiting?] at never
  rw [Session.armThen]
  cases arms : session.arm signals connection with
  | mk answer ready =>
      rw [arms] at never clock
      cases answer with
      | error error => exact ⟨error, rfl, clock⟩
      | ok armed => cases never

/-- A step that never waits for anything ends at once. -/
theorem ended_of_pause?_eq_none {step : RehearsalStep} (never : rehearsal.pause? step = none) :
    (rehearsal.attempt step).1 ≠ .pending ∧
      (rehearsal.attempt step).2.connection.clock = rehearsal.connection.clock := by
  have failed {α : Type} (result : α → StepResult) {outcome : Outcome α}
      (ended : ∃ error, outcome = .failed error) : finish result outcome ≠ .pending := by
    obtain ⟨error, rfl⟩ := ended
    rintro ⟨⟩
  have computed {α : Type} (result : α → StepResult) (answer : Except SessionError α) :
      finish result (.ofExcept answer) ≠ .pending := by
    cases answer <;> rintro ⟨⟩
  cases step with
  | invoke method tokens =>
      obtain ⟨error, ended, clock⟩ :=
        ended_of_calling?_eq_none (Option.map_eq_none_iff.mp never)
      exact ⟨failed _ ⟨error, ended⟩, clock⟩
  | wait signals limit =>
      obtain ⟨error, ended, clock⟩ := ended_of_waiting?_eq_none
        (rehearsal.session.waitArmed · limit) (Option.map_eq_none_iff.mp never)
      exact ⟨failed _ ⟨error, ended⟩, clock⟩
  | invokeAndWait method tokens signals limit =>
      rw [pause?] at never
      cases asked : signals.isEmpty with
      | true =>
          rw [if_pos asked] at never
          obtain ⟨error, ended, clock⟩ :=
            ended_of_calling?_eq_none (Option.map_eq_none_iff.mp never)
          rw [attempt, perform, Session.invokeAndWait, if_pos asked]
          refine ⟨failed _ ⟨error, Session.invokeOnly_of_failed ended⟩, ?_⟩
          rw [← clock, ← Session.invokeOnly_snd]
      | false =>
          rw [asked, if_neg Bool.false_ne_true, Option.map_eq_none_iff, Session.callingArmed?]
            at never
          rw [attempt, perform]
          cases chosen : rehearsal.session.prepare method tokens with
          | error error =>
              rw [Session.invokeAndWait, asked, if_neg Bool.false_ne_true, chosen]
              exact ⟨by rintro ⟨⟩, rfl⟩
          | ok prepared =>
              rw [chosen, Option.map_eq_none_iff] at never
              rw [Session.invokeAndWait_eq_armThen _ limit asked chosen]
              obtain ⟨error, ended, clock⟩ := ended_of_waiting?_eq_none
                (rehearsal.session.callArmed (Session.methodCall prepared) · limit) never
              exact ⟨failed _ ⟨error, ended⟩, clock⟩
  | validate signals => exact ⟨computed _ _, rfl⟩
  | prepare method tokens => exact ⟨computed _ _, rfl⟩
  | arm name signals =>
      have clock := rehearsal.session.clock_arm rehearsal.connection signals
      rw [attempt, arm]
      cases arms : rehearsal.session.arm signals rehearsal.connection with
      | mk answer ready =>
          rw [arms] at clock
          cases answer with
          | error error => exact ⟨by rintro ⟨⟩, clock⟩
          | ok armed => exact ⟨by rintro ⟨⟩, (clock_discard name).trans clock⟩
  | waitArmed name limit =>
      rw [attempt]
      rw [Option.map_eq_none_iff.mp never]
      exact ⟨by rintro ⟨⟩, rfl⟩
  | drop name => exact ⟨by rintro ⟨⟩, clock_discard name⟩
  | sleep milliseconds => cases never

/-- Only a step that waits for something is given up. -/
theorem paused_of_given_up {step : RehearsalStep} {patience : Nat}
    (given_up : (rehearsal.stepWithin step patience).1 = none) :
    ∃ paused, rehearsal.pause? step = some paused ∧
      (rehearsal.stepWithin step patience).2 = paused.abandon patience := by
  have left : (rehearsal.stepWithin step patience).2 = rehearsal.giveUp step patience ∧
      (patience < (rehearsal.attempt step).2.connection.clock - rehearsal.connection.clock ∨
        (rehearsal.attempt step).1 = .pending) := by
    rw [stepWithin] at given_up ⊢
    dsimp only at given_up ⊢
    split at given_up
    · next late => exact ⟨by rw [if_pos late], .inl late⟩
    · next early =>
        rw [if_neg early]
        cases outcome : (rehearsal.attempt step).1 with
        | pending => exact ⟨rfl, .inr rfl⟩
        | done result =>
            rw [outcome] at given_up
            cases given_up
        | failed error =>
            rw [outcome] at given_up
            cases given_up
  rw [left.1, giveUp]
  cases waits : rehearsal.pause? step with
  | some paused => exact ⟨paused, rfl, rfl⟩
  | none =>
      obtain ⟨ends, clock⟩ := ended_of_pause?_eq_none waits
      rw [clock, Nat.sub_self] at left
      exact absurd (left.2.resolve_left (Nat.not_lt_zero patience)) ends

end GivingUp

end Rehearsal

end BusBridge
