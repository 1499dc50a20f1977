import BusBridge.Proofs.ReportedOnce
import BusBridge.World

/-!
# Failures in the world of the program

The daemon of a world answers a call at once, while a wait takes a second at least.  So nothing
but signals comes to a wait before the call beside it returns, and a run that has connected tells
every failure once.
-/

namespace BusBridge

/-- Signals alone do not make a wait fail. -/
theorem Wait.settle_ne_error {wait : Wait} {events : List WaitEvent}
    (signals : ∀ event ∈ events, ∃ notification, event = .stream (.notified notification))
    (missed : SessionError) : wait.settle events ≠ some (.error missed) := by
  intro failed
  obtain ⟨event, met, reacted⟩ := List.exists_of_findSome?_eq_some failed
  obtain ⟨notification, rfl⟩ := signals event met
  rw [Wait.react] at reacted
  split at reacted <;> cases reacted

theorem WaitLimit.second_le {limit : WaitLimit} {count : Nat}
    (limited : limit.milliseconds? = some count) : 1000 ≤ count := by
  cases limit with
  | never => cases limited
  | seconds seconds positive =>
      have same : seconds * 1000 = count := Option.some.inj limited
      omega

/-- In less than a second a wait meets only what the stream delivers. -/
theorem Wait.delivered_of_mem_events {wait : Wait} {stream : List (Timed StreamEvent)}
    {timed : Timed WaitEvent} (met : timed ∈ wait.events stream) (soon : timed.after < 1000) :
    ∃ delivered ∈ stream, timed.item = .stream delivered.item := by
  rw [Wait.events] at met
  cases limited : wait.limit.milliseconds? with
  | none =>
      rw [limited] at met
      obtain ⟨delivered, member, rfl⟩ := List.mem_map.mp met
      exact ⟨delivered, member, rfl⟩
  | some count =>
      rw [limited] at met
      rcases List.mem_append.mp met with met | met
      · obtain ⟨delivered, member, rfl⟩ := List.mem_map.mp met
        exact ⟨delivered, (List.takeWhile_sublist _).subset member, rfl⟩
      · obtain rfl := List.mem_singleton.mp met
        exact absurd (WaitLimit.second_le limited) (Nat.not_le.mpr soon)

namespace DaemonBus

variable {bus : DaemonBus}

/-- Everything that the subscriptions have still to read is a signal. -/
def OnlySignals (bus : DaemonBus) : Prop :=
  ∀ entry ∈ bus.mail, ∀ timed ∈ entry.2, ∃ notification, timed.item = .notified notification

theorem notified_of_arriving {after : Nat} {target : Target} {signals : List SentSignal}
    {timed : Timed StreamEvent} (arrives : timed ∈ SentSignal.arriving after target signals) :
    ∃ notification, timed.item = .notified notification := by
  obtain ⟨signal, -, rfl⟩ := List.mem_map.mp arrives
  exact ⟨signal.notification, rfl⟩

theorem onlySignals_ofDaemon (daemon : Daemon) : (ofDaemon daemon).OnlySignals :=
  nofun

theorem OnlySignals.subscribe (only : bus.OnlySignals) (target : Target) :
    (bus.subscribe target).2.OnlySignals := by
  rw [DaemonBus.subscribe]
  split
  · exact only
  · intro entry listed
    rcases List.mem_append.mp listed with old | new
    · exact only entry old
    · obtain rfl := List.mem_singleton.mp new
      exact fun timed => notified_of_arriving

theorem OnlySignals.call (only : bus.OnlySignals) (target : Target) (call : MethodCall) :
    (bus.call target call).2.OnlySignals := by
  intro entry listed timed delivered
  obtain ⟨earlier, old, rfl⟩ := List.mem_map.mp listed
  rcases List.mem_append.mp delivered with before | after
  · obtain ⟨told, member, rfl⟩ := List.mem_map.mp before
    exact only earlier old told member
  · rcases List.mem_append.mp after with soon | late
    · exact notified_of_arriving soon
    · exact notified_of_arriving late

theorem OnlySignals.stream (only : bus.OnlySignals) (subscription : Nat) :
    ∀ timed ∈ bus.stream subscription, ∃ notification, timed.item = .notified notification := by
  rw [DaemonBus.stream]
  cases found : bus.mail.lookup subscription with
  | none => exact nofun
  | some mail =>
      obtain ⟨before, after, split, -⟩ := List.lookup_eq_some_iff.mp found
      exact only (subscription, mail) (by rw [split]; simp)

end DaemonBus

namespace Session

variable {target : Target} {interface : Interface} {signals : SignalSet}
  {connection : Connection DaemonBus}

theorem onlySignals_of_arm {session : Session DaemonBus} {armed : ArmedWait}
    {ready : Connection DaemonBus} (ofDaemon : session.bus = DaemonBus.bus)
    (only : connection.bus.OnlySignals)
    (arms : session.arm signals connection = (.ok armed, ready)) : ready.bus.OnlySignals := by
  have known : session.validate signals = .ok () := by
    cases known : session.validate signals with
    | ok => rfl
    | error error =>
        rw [arm_of_validate_eq_error connection known] at arms
        cases arms
  have left : (session.arm signals connection).2.bus =
      (session.bus.subscribe session.target connection.bus).2 := by
    cases asked : (session.bus.subscribe session.target connection.bus).1 with
    | error reason => exact (arm_of_refused connection known asked).2.bus_eq
    | ok subscription => exact (arm_of_accepted connection known asked).2.bus_eq
  rw [arms, ofDaemon] at left
  exact left ▸ only.subscribe session.target

/-- A session with a daemon, in which everything happens at its time. -/
def withDaemon (target : Target) (interface : Interface) : Session DaemonBus :=
  ⟨DaemonBus.bus, target, interface, .callFirst⟩

/-- Before the daemon answers a call, only signals come to the wait beside it. -/
theorem notified_of_metBeforeReply (only : connection.bus.OnlySignals) (call : MethodCall)
    (armed : ArmedWait) (limit : WaitLimit) :
    ∀ event ∈ Look.metBeforeReply
        ((withDaemon target interface).schedule call armed limit connection).looks,
      ∃ notification, event = .stream (.notified notification) := by
  intro event met
  have byTime : Look.metBeforeReply
      ((withDaemon target interface).schedule call armed limit connection).looks = _ :=
    Scheduler.metBeforeReply_callFirst _ ⟨Daemon.replyTime, _⟩
  rw [byTime] at met
  obtain ⟨timed, taken, rfl⟩ := List.mem_map.mp met
  have soon : timed.after < Daemon.replyTime :=
    of_decide_eq_true (List.all_eq_true.mp List.all_takeWhile timed taken)
  obtain ⟨delivered, member, same⟩ := Wait.delivered_of_mem_events
    ((List.takeWhile_sublist _).subset taken) (Nat.lt_trans soon (by decide))
  obtain ⟨notification, told⟩ := (only.call target call).stream armed.subscription delivered member
  exact ⟨notification, same.trans (congrArg WaitEvent.stream told)⟩

/-- The wait beside a call does not fail before the daemon answers. -/
theorem earlyEnd?_ne_error (only : connection.bus.OnlySignals) (name : String)
    (tokens : List String) (signals : SignalSet) (limit : WaitLimit) (missed : SessionError) :
    (withDaemon target interface).earlyEnd? name tokens signals limit connection ≠
      some (.error missed) := by
  intro failed
  obtain ⟨prepared, armed, ready, -, -, arms, early⟩ := exists_armed_of_earlyEnd connection failed
  have reported : (connection.report
      (Invocation.prepareEvents interface name tokens)).bus.OnlySignals := only
  have readyOnly : ready.bus.OnlySignals := onlySignals_of_arm rfl reported arms
  exact Wait.settle_ne_error (notified_of_metBeforeReply readyOnly _ armed limit) missed early

end Session

namespace Run

variable {surroundings : ConfigFile.Surroundings} {daemon? : Option Daemon} {wording : Wording}
  {arguments : List RawText} {typed : TypedRequest} {command : Command} {settings : Settings}
  {connection : Connection DaemonBus}

theorem onlySignals_of_connects
    (connects : Connects ((World.ofDaemon surroundings daemon?).withWording wording) arguments
      typed command settings connection) : connection.bus.OnlySignals := by
  obtain ⟨state, connected, rfl⟩ := connects.connect_eq
  change DaemonBus.connect daemon? settings.bus = .ok state at connected
  rw [DaemonBus.connect] at connected
  split at connected
  · obtain rfl := Except.ok.inj connected
    exact DaemonBus.onlySignals_ofDaemon _
  · cases connected

/-- In the world of the program no wait fails before the call beside it is seen to return. -/
theorem not_waitFailsFirst (name : String) (missed : SessionError) :
    ¬ WaitFailsFirst ((World.ofDaemon surroundings daemon?).withWording wording) arguments name
      missed := by
  rintro ⟨format, tokens, signals, limit, session, connection, reaches, failed⟩
  obtain ⟨typed, settings, first, rfl, connects, resolved⟩ := reaches
  obtain ⟨interface, rfl⟩ := Session.session_of_resolve (congrArg Prod.fst resolved)
  have same : connection.bus = first.bus := by
    have kept := Session.bus_resolve DaemonBus.bus .callFirst Target.nickel first
    exact (congrArg (·.2.bus) resolved).symm.trans kept
  have only : connection.bus.OnlySignals := by
    rw [same]
    exact onlySignals_of_connects connects
  exact Session.earlyEnd?_ne_error only name tokens signals limit missed failed

/-- Under the default log filter a run of the program that has connected to a daemon, which answers
at once, tells every failure once and nothing else on the standard error, whatever the libraries
show. -/
theorem failures_are_told_once_beside_daemon (surroundings : ConfigFile.Surroundings)
    (daemon? : Option Daemon) (wording : Wording) (arguments : List RawText) (output : Sink)
    (connects : Connects ((World.ofDaemon surroundings daemon?).withWording wording) arguments
      typed command settings connection)
    (usual : settings.logFilter = Settings.default.logFilter) :
    let run :=
      ofArguments ((World.ofDaemon surroundings daemon?).withWording wording) arguments output
    Log.severe run.reports = [] ∧ run.standardError = run.ending.standardError := by
  intro run
  have quiet := World.quiet_ofDaemon surroundings daemon?
  have silent : Log.severe run.reports = [] :=
    severe_eq_nil output ⟨quiet.connecting, quiet.bus⟩ connects not_waitFailsFirst
  exact ⟨silent, standardError_of_silent output rfl connects usual silent⟩

end Run

end BusBridge
