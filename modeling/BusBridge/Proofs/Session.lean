import BusBridge.Proofs.Race
import BusBridge.Session

/-!
# What the operations of a session do to the bus

Each operation of a session is told here once: how it ends, which requests reach the bus
on the way, and in which state it leaves the bus.  What is reported does not matter for
any of these.
-/

namespace BusBridge

/-- On the way from one connection to another these requests reached the bus, and they
left it in this state. -/
structure Connection.Reached {σ : Type} (before after : Connection σ)
    (requests : List BusRequest) (bus : σ) : Prop where
  requests_eq : after.requests = before.requests ++ requests
  bus_eq : after.bus = bus

namespace Connection.Reached

variable {σ : Type} {before middle after : Connection σ} {first second : List BusRequest}
  {early late : σ}

theorem trans (start : before.Reached middle first early)
    (rest : middle.Reached after second late) : before.Reached after (first ++ second) late := by
  constructor
  · rw [rest.requests_eq, start.requests_eq, List.append_assoc]
  · exact rest.bus_eq

end Connection.Reached

theorem Outcome.ofExcept_ne_pending {α : Type} (result : Except SessionError α) :
    ofExcept result ≠ pending := by
  cases result <;> exact nofun

namespace Session

variable {σ : Type} (session : Session σ)

section Validation

variable {session} {signals : SignalSet}

theorem validate_eq_ok_iff :
    session.validate signals = .ok () ↔
      ∀ name ∈ signals.names, session.interface.hasSignal name = true := by
  rw [validate]
  cases unknown : signals.names.find? fun name => !session.interface.hasSignal name with
  | none => simpa using unknown
  | some name =>
      have missing := List.find?_some unknown
      have member := List.mem_of_find?_eq_some unknown
      simp only [reduceCtorEq, false_iff]
      intro published
      simp [published name member] at missing

/-- Only an unknown name can be wrong with a set of names. -/
theorem exists_unknown_of_validate_eq_error {error : SessionError}
    (refused : session.validate signals = .error error) :
    ∃ name ∈ signals.names, session.interface.hasSignal name = false ∧
      error = .signalNotFound name := by
  rw [validate] at refused
  cases unknown : signals.names.find? fun name => !session.interface.hasSignal name with
  | none => simp [unknown] at refused
  | some name =>
      have missing := List.find?_some unknown
      rw [unknown] at refused
      exact ⟨name, List.mem_of_find?_eq_some unknown, by simpa using missing,
        (Except.error.inj refused).symm⟩

theorem exists_validate_eq_error {name : String} (member : name ∈ signals.names)
    (unknown : session.interface.hasSignal name = false) :
    ∃ error, session.validate signals = .error error := by
  cases checked : session.validate signals with
  | error error => exact ⟨error, rfl⟩
  | ok =>
      have published := validate_eq_ok_iff.mp checked name member
      simp [unknown] at published

end Validation

section Arming

variable {session} {signals : SignalSet} (connection : Connection σ)

theorem arm_of_validate_eq_error {error : SessionError}
    (unknown : session.validate signals = .error error) :
    session.arm signals connection = (.error error, connection) := by
  rw [arm, unknown]

theorem arm_of_refused {reason : String} (known : session.validate signals = .ok ())
    (refused : (session.bus.subscribe session.target connection.bus).1 = .error reason) :
    (session.arm signals connection).1 = .error (.subscription reason) ∧
      connection.Reached (session.arm signals connection).2 [.subscribe session.target false]
        (session.bus.subscribe session.target connection.bus).2 := by
  rw [arm, known]
  cases asked : session.bus.subscribe session.target connection.bus with
  | mk answer state =>
      obtain rfl : answer = .error reason := by simpa [asked] using refused
      exact ⟨by simp [asked], ⟨by simp [asked], by simp [asked]⟩⟩

/-- A subscription that was made is the only request. -/
theorem arm_of_accepted {subscription : Nat} (known : session.validate signals = .ok ())
    (accepted : (session.bus.subscribe session.target connection.bus).1 = .ok subscription) :
    (session.arm signals connection).1 = .ok ⟨subscription, signals⟩ ∧
      connection.Reached (session.arm signals connection).2 [.subscribe session.target true]
        (session.bus.subscribe session.target connection.bus).2 := by
  rw [arm, known]
  cases asked : session.bus.subscribe session.target connection.bus with
  | mk answer state =>
      obtain rfl : answer = .ok subscription := by simpa [asked] using accepted
      exact ⟨by simp [asked], ⟨by simp [asked], by simp [asked]⟩⟩

theorem clock_arm (signals : SignalSet) :
    (session.arm signals connection).2.clock = connection.clock := by
  rw [arm]
  cases session.validate signals with
  | error error => rfl
  | ok =>
      dsimp only
      rcases session.bus.subscribe session.target _ with ⟨_ | _, _⟩ <;> rfl

def armThen {α : Type} (session : Session σ) (signals : SignalSet)
    (go : ArmedWait → Connection σ → Outcome α × Connection σ) (connection : Connection σ) :
    Outcome α × Connection σ :=
  match session.arm signals connection with
  | (.ok armed, connection) => go armed connection
  | (.error error, connection) => (.failed error, connection)

theorem wait_eq_armThen (limit : WaitLimit) :
    session.wait signals limit connection =
      session.armThen signals (session.waitArmed · limit) connection :=
  rfl

/-- Once the method is chosen, a call beside a wait starts with the wait. -/
theorem invokeAndWait_eq_armThen {method : String} {tokens : List String} (limit : WaitLimit)
    {prepared : PreparedCall} (asked : signals.isEmpty = false)
    (chosen : session.prepare method tokens = .ok prepared) :
    session.invokeAndWait method tokens signals limit connection =
      session.armThen signals (session.callArmed (methodCall prepared) · limit)
        (connection.report (Invocation.prepareEvents session.interface method tokens)) := by
  rw [invokeAndWait, asked, if_neg Bool.false_ne_true, chosen]
  rfl

variable {α : Type} (go : ArmedWait → Connection σ → Outcome α × Connection σ)

theorem armThen_of_arm_eq_error {error : SessionError}
    (refused : (session.arm signals connection).1 = .error error) :
    (session.armThen signals go connection).1 = .failed error ∧
      (session.armThen signals go connection).2 = (session.arm signals connection).2 := by
  rw [armThen]
  revert refused
  rcases session.arm signals connection with ⟨_ | _, _⟩
  · rintro ⟨⟩
    exact ⟨rfl, rfl⟩
  · rintro ⟨⟩

theorem armThen_of_arm_eq_ok {armed : ArmedWait}
    (arms : (session.arm signals connection).1 = .ok armed) :
    session.armThen signals go connection =
      go armed (session.arm signals connection).2 := by
  rw [armThen]
  revert arms
  rcases session.arm signals connection with ⟨_ | _, _⟩
  · rintro ⟨⟩
  · rintro ⟨⟩
    rfl

end Arming

section Waiting

variable (armed : ArmedWait) (limit : WaitLimit) (connection : Connection σ)

theorem waitArmed_fst :
    (session.waitArmed armed limit connection).1 =
      .ofOption ((armed.within limit).settle
        ((session.expected armed limit connection.bus).map Timed.item)) := by
  rw [← Wait.map_item_settleTimed, waitArmed]
  cases (armed.within limit).settleTimed (session.expected armed limit connection.bus) <;> rfl

theorem reached_waitArmed :
    connection.Reached (session.waitArmed armed limit connection).2 []
      (session.bus.release armed.subscription connection.bus) := by
  rw [waitArmed]
  split <;> exact ⟨by simp [release], by simp [release]⟩

end Waiting

section Calling

variable (call : MethodCall) (armed : ArmedWait) (limit : WaitLimit) (connection : Connection σ)

@[simp]
theorem requests_sent (state : σ) :
    (session.sent call state connection).requests =
      connection.requests ++ [.call session.target call] := by
  simp [sent]

@[simp]
theorem bus_sent (state : σ) : (session.sent call state connection).bus = state :=
  rfl

@[simp]
theorem clock_sent (state : σ) : (session.sent call state connection).clock = connection.clock :=
  rfl

theorem callArmed_fst :
    (session.callArmed call armed limit connection).1 =
      .ofOption (((Race.follow call.method (armed.within limit)
        (session.schedule call armed limit connection)).2.1.map Timed.item).map
          (raced call.method)) := by
  rw [callArmed]
  rcases Race.follow call.method (armed.within limit)
    (session.schedule call armed limit connection) with ⟨early, _ | ending, reports⟩ <;> rfl

/-- The call is made while the subscription is alive; only then does that end. -/
theorem reached_callArmed :
    connection.Reached (session.callArmed call armed limit connection).2
      [.call session.target call]
      (session.bus.release armed.subscription (session.answer call connection).2) := by
  rw [callArmed]
  rcases Race.follow call.method (armed.within limit)
    (session.schedule call armed limit connection) with ⟨early, _ | ending, reports⟩ <;>
    exact ⟨by simp [release], by simp [release]⟩

theorem clock_callArmed {ending : Timed (Except String CallReport)}
    (ends : (Race.follow call.method (armed.within limit)
      (session.schedule call armed limit connection)).2.1 = some ending) :
    (session.callArmed call armed limit connection).2.clock =
      connection.clock + ending.after := by
  rw [callArmed]
  revert ends
  rcases Race.follow call.method (armed.within limit)
    (session.schedule call armed limit connection) with ⟨early, _ | found, reports⟩
  · intro ends
    cases ends
  · intro ends
    obtain rfl : found = ending := Option.some.inj ends
    simp [release]

end Calling

section Invoking

variable {session} {method : String} {tokens : List String} (connection : Connection σ)

theorem invoke_of_prepare_eq_error {error : SessionError}
    (refused : session.prepare method tokens = .error error) :
    (session.invoke method tokens connection).1 = .failed error ∧
      connection.Reached (session.invoke method tokens connection).2 [] connection.bus := by
  rw [invoke, refused]
  exact ⟨rfl, ⟨by simp, rfl⟩⟩

theorem invoke_of_prepare_eq_ok {prepared : PreparedCall}
    (chosen : session.prepare method tokens = .ok prepared) :
    connection.Reached (session.invoke method tokens connection).2
      [.call session.target (methodCall prepared)]
      (session.bus.call session.target (methodCall prepared) connection.bus).2 := by
  rw [invoke, chosen]
  cases answered : session.answer (methodCall prepared)
    (connection.report (Invocation.prepareEvents session.interface method tokens)) with
  | mk reply? state =>
      have after : (session.bus.call session.target (methodCall prepared) connection.bus).2 =
          state := congrArg Prod.snd answered
      cases reply? <;> exact ⟨by simp [answered], by simp [answered, after]⟩

variable {connection}

theorem invokeOnly_snd :
    (session.invokeOnly method tokens connection).2 =
      (session.invoke method tokens connection).2 := by
  rw [invokeOnly]
  rcases session.invoke method tokens connection with ⟨_ | _ | _, _⟩ <;> rfl

theorem invokeOnly_of_failed {error : SessionError}
    (failed : (session.invoke method tokens connection).1 = .failed error) :
    (session.invokeOnly method tokens connection).1 = .failed error := by
  rw [invokeOnly]
  revert failed
  rcases session.invoke method tokens connection with ⟨_ | _ | _, _⟩ <;> simp

end Invoking

section Opening

variable (bus : Bus σ) (scheduler : Scheduler) (target : Target) (connection : Connection σ)

theorem bus_resolve :
    (resolve bus scheduler target connection).2.bus =
      (bus.introspect target connection.bus).2 := by
  rw [resolve]
  dsimp only
  split
  · rfl
  · split <;> rfl

theorem requests_resolve :
    (resolve bus scheduler target connection).2.requests =
      connection.requests ++ [.introspect target] := by
  rw [resolve]
  dsimp only
  split
  · simp
  · split <;> simp

variable {bus scheduler target connection}

theorem session_of_resolve {session : Session σ}
    (resolved : (resolve bus scheduler target connection).1 = .ok session) :
    ∃ interface, session = ⟨bus, target, interface, scheduler⟩ := by
  rw [resolve] at resolved
  dsimp only at resolved
  split at resolved
  · cases resolved
  · split at resolved
    · cases resolved
    · exact ⟨_, (Except.ok.inj resolved).symm⟩

theorem bus_of_resolve {session : Session σ}
    (resolved : (resolve bus scheduler target connection).1 = .ok session) :
    session.bus = bus := by
  obtain ⟨interface, rfl⟩ := session_of_resolve resolved
  rfl

theorem resolve_of_unanswered {reason : String}
    (unanswered : (bus.introspect target connection.bus).1 = .error reason) :
    (resolve bus scheduler target connection).1 = .error (.connection reason) := by
  rw [resolve]
  dsimp only
  rw [unanswered]

theorem resolve_of_missing {interfaces : List Interface}
    (described : (bus.introspect target connection.bus).1 = .ok interfaces)
    (missing : Interface.find? interfaces target.interface = none) :
    (resolve bus scheduler target connection).1 =
      .error (.interfaceNotFound target.interface) := by
  rw [resolve]
  dsimp only
  rw [described]
  dsimp only
  rw [findInterface, missing]

theorem resolve_of_found {interfaces : List Interface} {interface : Interface}
    (described : (bus.introspect target connection.bus).1 = .ok interfaces)
    (found : Interface.find? interfaces target.interface = some interface) :
    (resolve bus scheduler target connection).1 = .ok ⟨bus, target, interface, scheduler⟩ := by
  rw [resolve]
  dsimp only
  rw [described]
  dsimp only
  rw [findInterface, found]

end Opening

end Session

end BusBridge
