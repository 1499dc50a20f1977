import BusBridge.Interface.Nickel
import BusBridge.Proofs.CallAndWait
import BusBridge.Proofs.Overloads
import BusBridge.Proofs.RaceReports
import BusBridge.Proofs.RunOrder
import BusBridge.Proofs.WrittenRequests

/-!
# How often a failure is told

Under the default log filter the operator sees the severe reports of a run and then the text of
the error with which it fails.  A failure is told once, by that text, with one exception: a wait
that fails before the call beside it is seen to return is reported as well.
-/

namespace BusBridge

namespace Log.Filter

/-- The default filter. -/
def warnings : Filter :=
  ⟨[⟨none, [], false, Level.warn.verbosity⟩]⟩

theorem read?_default : read? Settings.default.logFilter = some warnings := by
  decide +kernel

/-- The default filter admits the severe reports and no others. -/
theorem admits_warnings : warnings.admits = Event.isSevere :=
  rfl

end Log.Filter

theorem Logging.lines_of_default {settings : Settings} {logging : Logging}
    (usual : settings.logFilter = Settings.default.logFilter)
    (logs : ofSettings? settings = some logging) (events : List Log.Event) :
    logging.lines events = (Log.severe events).map logging.line := by
  rw [ofSettings?, usual, Log.Filter.read?_default, Option.map_some] at logs
  obtain rfl := Option.some.inj logs
  rw [lines, Log.Filter.admits_warnings]
  rfl

/-- A bus on which nothing severe is reported. -/
def Bus.Quiet {σ : Type} (bus : Bus σ) : Prop :=
  ∀ target, Log.severe (bus.subscribing target) = []

/-- A world in which nothing severe is reported about the connection. -/
structure World.Quiet {σ : Type} (world : World σ) : Prop where
  connecting : ∀ kind, Log.severe (world.connecting kind) = []
  bus : world.bus.Quiet

theorem World.quiet_ofDaemon (surroundings : ConfigFile.Surroundings) (daemon? : Option Daemon) :
    (World.ofDaemon surroundings daemon?).Quiet :=
  ⟨fun _ => rfl, fun _ => rfl⟩

namespace Connection

/-- What was reported as a warning or an error. -/
def warnings {σ : Type} (connection : Connection σ) : List Log.Event :=
  Log.severe connection.reports

section Warnings

variable {σ : Type} (connection : Connection σ)

@[simp]
theorem warnings_report (events : List Log.Event) :
    (connection.report events).warnings = connection.warnings ++ Log.severe events := by
  simp [warnings]

@[simp]
theorem warnings_request (request : BusRequest) (bus : σ) :
    (connection.request request bus).warnings = connection.warnings := by
  simp [warnings]

@[simp]
theorem warnings_wait (milliseconds : Nat) :
    (connection.wait milliseconds).warnings = connection.warnings :=
  rfl

@[simp]
theorem warnings_mapBus (change : σ → σ) :
    (connection.mapBus change).warnings = connection.warnings :=
  rfl

end Warnings

end Connection

theorem Invocation.severe_attemptEvents (name : String) (tokens : List String) (isFirst : Bool)
    (methods : List Method) : Log.severe (attemptEvents name tokens isFirst methods) = [] := by
  induction methods generalizing isFirst with
  | nil => rfl
  | cons method others ih =>
      rw [attemptEvents]
      cases coerceArguments method tokens with
      | ok arguments => cases isFirst <;> rfl
      | error failures =>
          rw [Log.severe_append, ih, List.append_nil]
          cases isFirst <;> rfl

namespace Session

variable {σ : Type} {session : Session σ} (connection : Connection σ)

section Operations

@[simp]
theorem severe_resolvedReport (interface : Interface) :
    Log.severe [resolvedReport interface] = [] :=
  rfl

@[simp]
theorem severe_subscribedReport (target : Target) (signals : SignalSet) :
    Log.severe [subscribedReport target signals] = [] :=
  rfl

@[simp]
theorem severe_callingReport (call : MethodCall) : Log.severe [callingReport call] = [] :=
  rfl

@[simp]
theorem severe_prepareEvents (interface : Interface) (name : String) (tokens : List String) :
    Log.severe (Invocation.prepareEvents interface name tokens) = [] :=
  Invocation.severe_attemptEvents name tokens true _

theorem warnings_resolve (bus : Bus σ) (scheduler : Scheduler) (target : Target) :
    (resolve bus scheduler target connection).2.warnings = connection.warnings := by
  rw [resolve]
  dsimp only
  split
  · simp
  · split <;> simp

theorem warnings_arm (quiet : session.bus.Quiet) (signals : SignalSet) :
    (session.arm signals connection).2.warnings = connection.warnings := by
  rw [arm]
  cases session.validate signals with
  | error error => rfl
  | ok =>
      have mild := quiet session.target
      dsimp only
      rcases session.bus.subscribe session.target _ with ⟨_ | _, _⟩ <;> simp [mild]

theorem warnings_waitArmed (armed : ArmedWait) (limit : WaitLimit) :
    (session.waitArmed armed limit connection).2.warnings = connection.warnings := by
  rw [waitArmed]
  split <;> simp [release, Wait.severe_passingReports]

theorem warnings_armThen {α : Type} (quiet : session.bus.Quiet) (signals : SignalSet)
    {go : ArmedWait → Connection σ → Outcome α × Connection σ}
    (mild : ∀ armed ready, (go armed ready).2.warnings = ready.warnings) :
    (session.armThen signals go connection).2.warnings = connection.warnings := by
  rw [← warnings_arm connection quiet signals, armThen]
  rcases session.arm signals connection with ⟨_ | armed, ready⟩
  · rfl
  · exact mild armed ready

theorem warnings_invoke (name : String) (tokens : List String) :
    (session.invoke name tokens connection).2.warnings = connection.warnings := by
  rw [invoke]
  cases session.prepare name tokens with
  | error error => simp
  | ok prepared =>
      dsimp only
      rcases session.answer (methodCall prepared) _ with ⟨_ | reply, state⟩ <;> simp [sent]

/-- A call beside a wait warns of the wait if that fails before the call is seen to return. -/
theorem warnings_callArmed (call : MethodCall) (armed : ArmedWait) (limit : WaitLimit) :
    (session.callArmed call armed limit connection).2.warnings =
      connection.warnings ++ Race.early call.method ((armed.within limit).settle
        (Look.metBeforeReply (session.schedule call armed limit connection).looks)) := by
  rw [← Race.severe_follow, callArmed]
  rcases Race.follow call.method (armed.within limit)
    (session.schedule call armed limit connection) with ⟨early, _ | ending, reports⟩ <;>
    simp [release, sent]

/-- How the wait beside a call ends before the call is seen to return, if it does. -/
def earlyEnd? (session : Session σ) (name : String) (tokens : List String) (signals : SignalSet)
    (limit : WaitLimit) (connection : Connection σ) : Option WaitResult :=
  if signals.isEmpty then none
  else
    match session.prepare name tokens with
    | .error _ => none
    | .ok prepared =>
      match session.arm signals
        (connection.report (Invocation.prepareEvents session.interface name tokens)) with
      | (.error _, _) => none
      | (.ok armed, ready) =>
        (armed.within limit).settle
          (Look.metBeforeReply (session.schedule (methodCall prepared) armed limit ready).looks)

section Calls

variable {name : String} {tokens : List String} {signals : SignalSet} {limit : WaitLimit}

theorem name_of_prepare {prepared : PreparedCall}
    (chosen : session.prepare name tokens = .ok prepared) :
    (methodCall prepared).method = name :=
  (Invocation.prepare_eq_ok_iff.mp chosen).2.1.name_eq

theorem warnings_invokeAndWait (quiet : session.bus.Quiet) :
    (session.invokeAndWait name tokens signals limit connection).2.warnings =
      connection.warnings ++
        Race.early name (session.earlyEnd? name tokens signals limit connection) := by
  have silent : Race.early name none = [] := rfl
  rw [invokeAndWait, earlyEnd?]
  cases asked : signals.isEmpty with
  | true => simp [invokeOnly_snd, warnings_invoke, silent]
  | false =>
      simp only [Bool.false_eq_true, if_false]
      cases chosen : session.prepare name tokens with
      | error error => simp [silent]
      | ok prepared =>
          have arms := warnings_arm (connection.report
            (Invocation.prepareEvents session.interface name tokens)) quiet signals
          dsimp only
          rcases armed_eq : session.arm signals _ with ⟨_ | armed, ready⟩
          · simpa [armed_eq, silent] using arms
          · have ready_eq : ready.warnings = connection.warnings := by simpa [armed_eq] using arms
            rw [warnings_callArmed, ready_eq, name_of_prepare chosen]

/-- What a call can give if the wait beside it has failed before. -/
theorem callArmed_of_early {call : MethodCall} {armed : ArmedWait} {missed : SessionError}
    (failed : (armed.within limit).settle
      (Look.metBeforeReply (session.schedule call armed limit connection).looks) =
        some (.error missed)) :
    let outcome := (session.callArmed call armed limit connection).1
    outcome = .pending ∨ (∃ reason, outcome = .failed (.remoteCallFailed call.method reason)) ∨
      ∃ reply, outcome = .done ⟨reply, some (.error missed)⟩ := by
  have settled := Wait.settle_of_metBeforeReply failed
  rw [Schedule.flatMap_events_looks] at settled
  rw [callArmed_fst, Race.follow_ending, settled]
  rcases (session.answer call connection).1.map Timed.item with _ | (reason | reply)
  · exact .inl rfl
  · exact .inr (.inl ⟨reason, rfl⟩)
  · exact .inr (.inr ⟨reply, rfl⟩)

/-- Only a wait that was armed can end early. -/
theorem exists_armed_of_earlyEnd {result : WaitResult}
    (ended : session.earlyEnd? name tokens signals limit connection = some result) :
    ∃ prepared armed ready, signals.isEmpty = false ∧
      session.prepare name tokens = .ok prepared ∧
      session.arm signals (connection.report
        (Invocation.prepareEvents session.interface name tokens)) = (.ok armed, ready) ∧
      (armed.within limit).settle (Look.metBeforeReply
        (session.schedule (methodCall prepared) armed limit ready).looks) = some result := by
  rw [earlyEnd?] at ended
  cases asked : signals.isEmpty with
  | true => simp [asked] at ended
  | false =>
      simp only [asked, Bool.false_eq_true, if_false] at ended
      cases chosen : session.prepare name tokens with
      | error error => simp [chosen] at ended
      | ok prepared =>
          simp only [chosen] at ended
          rcases arms : session.arm signals _ with ⟨_ | armed, ready⟩
          · simp [arms] at ended
          · simp only [arms] at ended
            exact ⟨prepared, armed, ready, rfl, rfl, rfl, ended⟩

theorem invokeAndWait_of_earlyEnd {missed : SessionError}
    (failed : session.earlyEnd? name tokens signals limit connection = some (.error missed)) :
    let outcome := (session.invokeAndWait name tokens signals limit connection).1
    outcome = .pending ∨ (∃ reason, outcome = .failed (.remoteCallFailed name reason)) ∨
      ∃ reply, outcome = .done ⟨reply, some (.error missed)⟩ := by
  obtain ⟨prepared, armed, ready, asked, chosen, arms, early⟩ :=
    exists_armed_of_earlyEnd connection failed
  have outcome := callArmed_of_early ready early
  rw [name_of_prepare chosen] at outcome
  rwa [session.invokeAndWait_eq_callArmed limit asked chosen arms]

end Calls

end Operations

end Session

theorem Ending.severe_reports (ending : Ending) : Log.severe ending.reports = [] := by
  cases ending <;> rfl

namespace Run

variable {σ : Type} {world : World σ} {arguments : List RawText} {typed : TypedRequest}
  {settings : Settings} {command : Command} {connection : Connection σ} {format : OutputFormat}
  {session : Session σ} (output : Sink)

/-- What a command reports as a warning: that the wait beside its call has failed before the
call is seen to return. -/
def earlyReports (session : Session σ) (connection : Connection σ) : Command → List Log.Event
  | .method name tokens signals limit =>
    Race.early name (session.earlyEnd? name tokens signals limit connection)
  | _ => []

theorem warnings_perform (quiet : session.bus.Quiet) (command : Command) :
    (perform session command format output connection).2.2.warnings =
      connection.warnings ++ earlyReports session connection command := by
  cases command with
  | api => simp [perform, earlyReports]
  | signal signals limit =>
      rw [perform, finish_connection, Session.wait_eq_armThen,
        Session.warnings_armThen connection quiet signals fun armed ready =>
          Session.warnings_waitArmed ready armed limit]
      exact (List.append_nil _).symm
  | method name tokens signals limit =>
      rw [perform, finish_connection]
      exact Session.warnings_invokeAndWait connection quiet

theorem logging_of_connects
    (connects : Connects world arguments typed command settings connection) :
    world.logging? settings = some (ofArguments world arguments output).logging := by
  obtain ⟨logging, logs, run⟩ := ofArguments_of_connects output connects
  rw [logs, run]

theorem severe_of_connects
    (connects : Connects world arguments typed command settings connection) :
    Log.severe (ofArguments world arguments output).reports =
      (serve world command typed.format output connection).2.2.warnings := by
  obtain ⟨logging, -, run⟩ := ofArguments_of_connects output connects
  rw [run]
  dsimp only
  rw [Log.severe_append, Ending.severe_reports, List.append_nil]
  rfl

theorem Connects.warnings_eq (quiet : world.Quiet)
    (connects : Connects world arguments typed command settings connection) :
    connection.warnings = [] := by
  obtain ⟨state, -, rfl⟩ := connects.connect_eq
  rw [Connection.warnings_report, quiet.connecting, List.append_nil]
  rfl

/-- Without a session there is nothing severe to report. -/
theorem severe_of_unresolved (quiet : world.Quiet) {error : SessionError}
    (connects : Connects world arguments typed command settings connection)
    (unresolved : (Session.resolve world.bus world.scheduler Target.nickel connection).1 =
      .error error) :
    Log.severe (ofArguments world arguments output).reports = [] := by
  rw [severe_of_connects output connects, serve_of_unresolved output _ _ unresolved,
    Session.warnings_resolve, connects.warnings_eq quiet]

/-- In a session the only severe reports are those of the command. -/
theorem severe_of_reaches (quiet : world.Quiet)
    (reaches : Reaches world arguments format command session connection) :
    Log.severe (ofArguments world arguments output).reports =
      earlyReports session connection command := by
  obtain ⟨typed, settings, first, rfl, connects, resolved⟩ := reaches
  have opened : connection.warnings = [] := by
    have warnings := Session.warnings_resolve first world.bus world.scheduler Target.nickel
    rwa [resolved, connects.warnings_eq quiet] at warnings
  have quietBus : session.bus.Quiet := by
    rw [Session.bus_of_resolve (congrArg Prod.fst resolved)]
    exact quiet.bus
  rw [severe_of_connects output connects, serve, resolved]
  dsimp only
  rw [warnings_perform output quietBus, opened, List.nil_append]

theorem ending_of_method {name : String} {tokens : List String} {signals : SignalSet}
    {limit : WaitLimit}
    (reaches : Reaches world arguments format (.method name tokens signals limit) session
      connection) :
    (ofArguments world arguments output).ending =
      match (session.invokeAndWait name tokens signals limit connection).1 with
      | .done report => (present format report output).1
      | .failed error => .failed (.session error)
      | .pending => .pending := by
  obtain ⟨typed, settings, first, rfl, connects, resolved⟩ := reaches
  rw [(served_of_connects output connects).1, serve, resolved]
  dsimp only
  rw [perform]
  rcases session.invokeAndWait name tokens signals limit connection with ⟨_ | _ | _, after⟩ <;> rfl

/-- A failed wait beside a call that has succeeded is told if the reply can be written. -/
theorem present_of_missed (reply : List Value) (missed : SessionError) :
    (present format ⟨reply, some (.error missed)⟩ output).1 =
      match (output.write (Output.reply format reply)).1 with
      | .ok () => .failed (.signalAfterCall missed)
      | .error error => .failed (.output error) := by
  rw [present]
  rcases output.write (Output.reply format reply) with ⟨_ | _, _⟩ <;> rfl

theorem ending_of_missed {name : String} {tokens : List String} {signals : SignalSet}
    {limit : WaitLimit} {reply : List Value} {missed : SessionError}
    (reaches : Reaches world arguments format (.method name tokens signals limit) session
      connection)
    (gave : (session.invokeAndWait name tokens signals limit connection).1 =
      .done ⟨reply, some (.error missed)⟩) :
    (ofArguments world arguments output).ending =
      match (output.write (Output.reply format reply)).1 with
      | .ok () => .failed (.signalAfterCall missed)
      | .error error => .failed (.output error) := by
  rw [ending_of_method output reaches, gave]
  exact present_of_missed output reply missed

/-- A run calls a method, and the wait beside the call fails before the call is seen to
return. -/
def WaitFailsFirst (world : World σ) (arguments : List RawText) (name : String)
    (missed : SessionError) : Prop :=
  ∃ format tokens signals limit session connection,
    Reaches world arguments format (.method name tokens signals limit) session connection ∧
      session.earlyEnd? name tokens signals limit connection = some (.error missed)

/-- All that a run writes to the standard error: the lines of its log, and how it ends. -/
def standardError (run : Run σ) : String :=
  String.join (run.logLines.map fun line => line ++ "\n") ++ run.ending.standardError

/-- Under the default log filter the lines of the log are those of the severe reports. -/
theorem logLines_of_connects (logs : world.logging? = Logging.ofSettings?)
    (connects : Connects world arguments typed command settings connection)
    (usual : settings.logFilter = Settings.default.logFilter) :
    let run := ofArguments world arguments output
    run.logLines = (Log.severe run.reports).map run.logging.line := by
  refine Logging.lines_of_default usual ?_ _
  rw [← logs]
  exact logging_of_connects output connects

theorem standardError_of_silent (logs : world.logging? = Logging.ofSettings?)
    (connects : Connects world arguments typed command settings connection)
    (usual : settings.logFilter = Settings.default.logFilter)
    (silent : Log.severe (ofArguments world arguments output).reports = []) :
    (ofArguments world arguments output).standardError =
      (ofArguments world arguments output).ending.standardError := by
  rw [standardError, logLines_of_connects output logs connects usual, silent]
  exact String.empty_append

theorem severe_eq_nil (quiet : world.Quiet)
    (connects : Connects world arguments typed command settings connection)
    (later : ∀ name missed, ¬WaitFailsFirst world arguments name missed) :
    Log.severe (ofArguments world arguments output).reports = [] := by
  rcases resolved : Session.resolve world.bus world.scheduler Target.nickel connection with
    ⟨error | session, ready⟩
  · exact severe_of_unresolved output quiet connects (congrArg Prod.fst resolved)
  · have reaches : Reaches world arguments typed.format command session ready :=
      ⟨typed, settings, connection, rfl, connects, resolved⟩
    rw [severe_of_reaches output quiet reaches]
    cases command with
    | api => rfl
    | signal signals limit => rfl
    | method name tokens signals limit =>
        rw [earlyReports]
        cases ends : session.earlyEnd? name tokens signals limit ready with
        | none => rfl
        | some result =>
            cases result with
            | ok arrival => rfl
            | error missed => exact absurd ⟨_, _, _, _, _, _, reaches, ends⟩ (later name missed)

theorem WaitFailsFirst.severe {name : String} {missed : SessionError} (quiet : world.Quiet)
    (first : WaitFailsFirst world arguments name missed) :
    Log.severe (ofArguments world arguments output).reports = [Race.waitFailure name missed] := by
  obtain ⟨format, tokens, signals, limit, session, connection, reaches, ends⟩ := first
  rw [severe_of_reaches output quiet reaches, earlyReports, ends, Race.early_error]

/-- A run in which the wait has failed first cannot succeed. -/
theorem WaitFailsFirst.ending {name : String} {missed : SessionError}
    (first : WaitFailsFirst world arguments name missed) :
    let ending := (ofArguments world arguments output).ending
    ending = .pending ∨ (∃ reason, ending = .failed (.session (.remoteCallFailed name reason))) ∨
      ending = .failed (.signalAfterCall missed) ∨ ∃ error, ending = .failed (.output error) := by
  obtain ⟨format, tokens, signals, limit, session, connection, reaches, ends⟩ := first
  intro ending
  have performed : ending = _ := ending_of_method output reaches
  obtain gave | ⟨reason, gave⟩ | ⟨reply, gave⟩ :=
    Session.invokeAndWait_of_earlyEnd connection ends
  · rw [performed, gave]
    exact .inl rfl
  · rw [performed, gave]
    exact .inr (.inl ⟨reason, rfl⟩)
  · rw [show ending = _ from ending_of_missed output reaches gave]
    cases (output.write (Output.reply format reply)).1 with
    | ok => exact .inr (.inr (.inl rfl))
    | error error => exact .inr (.inr (.inr ⟨error, rfl⟩))

/-- A failure of a run that has connected is told once under the default log filter, as the last
thing on the standard error, unless it is that of a wait which fails before the call beside it
is seen to return.  Such a run does not succeed, and a warning about the wait stands before the
error with which it fails.  A failed wait is told as such beside a call that has succeeded only
if the reply could be written, whichever of the two has ended first. -/
theorem failures_are_told_once_unless_wait_fails_first (world : World σ) (quiet : world.Quiet)
    (logs : world.logging? = Logging.ofSettings?) (arguments : List RawText) (output : Sink)
    {typed : TypedRequest} {command : Command} {settings : Settings} {connection : Connection σ}
    (connects : Connects world arguments typed command settings connection)
    (usual : settings.logFilter = Settings.default.logFilter) :
    let run := ofArguments world arguments output
    ((∀ name missed, ¬WaitFailsFirst world arguments name missed) →
      Log.severe run.reports = [] ∧ run.standardError = run.ending.standardError) ∧
    (∀ name missed, WaitFailsFirst world arguments name missed →
      Log.severe run.reports = [Race.waitFailure name missed] ∧
        run.standardError =
          run.logging.line (Race.waitFailure name missed) ++ "\n" ++ run.ending.standardError ∧
        (run.ending = .pending ∨
          (∃ reason, run.ending = .failed (.session (.remoteCallFailed name reason))) ∨
          run.ending = .failed (.signalAfterCall missed) ∨
          ∃ error, run.ending = .failed (.output error))) ∧
    ∀ format name tokens signals limit session ready reply missed,
      Reaches world arguments format (.method name tokens signals limit) session ready →
      (session.invokeAndWait name tokens signals limit ready).1 =
          .done ⟨reply, some (.error missed)⟩ →
        run.ending =
          match (output.write (Output.reply format reply)).1 with
          | .ok () => .failed (.signalAfterCall missed)
          | .error error => .failed (.output error) := by
  intro run
  refine ⟨fun later => ?_, fun name missed first => ?_, ?_⟩
  · have silent : Log.severe run.reports = [] := severe_eq_nil output quiet connects later
    exact ⟨silent, standardError_of_silent output logs connects usual silent⟩
  · have warned : Log.severe run.reports = [Race.waitFailure name missed] :=
      first.severe output quiet
    refine ⟨warned, ?_, first.ending output⟩
    have lines : run.logLines = (Log.severe run.reports).map run.logging.line :=
      logLines_of_connects output logs connects usual
    rw [standardError, lines, warned]
    simp
  · intro format name tokens signals limit session ready reply missed reaches gave
    exact ending_of_missed output reaches gave

section Slow

/-- A remote object that takes two seconds to reply, and a log. -/
def slowWorld : World ScriptedBus :=
  { World.rehearsed (fun _ => .ok .default)
      { Script.publishing [Interface.nickel] with
        replies := [("miscSignalConnected", [.boolean true])]
        replyDelay := 2000 } none with
    logging? := Logging.ofSettings? }

def impatientRequest : TypedRequest :=
  ⟨.method "miscSignalConnected" ["wmNetworkConnected"] ["wmNetworkConnected"] 1, .human⟩

def impatientLine : List RawText :=
  impatientRequest.line (.ofString "ndb-cli")

/-- The wait is over after one second, and the operator is told of it before the reply comes and
again at the end. -/
theorem slow_reply_after_warning :
    (ofArguments slowWorld impatientLine (.empty none)).standardError =
      "WARN ndb_engine::session: signal wait ended before the call returned " ++
        "method=\"miscSignalConnected\" error=timeout after 1s\n" ++
          "error waiting for signal after method call: timeout after 1s\n" := by
  let command : Command := .method "miscSignalConnected" ["wmNetworkConnected"]
    (.ofList ["wmNetworkConnected"]) (.ofSeconds 1)
  let missed : SessionError := .timeout (.ofSeconds 1)
  have read : asked impatientLine = .ok impatientRequest :=
    asked_line _ (show 1 < Nat.pow 2 64 by decide)
  have logs : Logging.ofSettings? Settings.default = some ⟨.warnings, .compact⟩ := by
    rw [Logging.ofSettings?, Log.Filter.read?_default]
    rfl
  have connects : Connects slowWorld impatientLine impatientRequest command .default
      (.start (.ofScript _)) := ⟨⟨read, rfl, _, logs, rfl⟩, rfl, rfl, _, rfl, rfl⟩
  have reaches : Reaches slowWorld impatientLine .human command _ _ :=
    ⟨_, _, _, rfl, connects, rfl⟩
  have first : WaitFailsFirst slowWorld impatientLine "miscSignalConnected" missed :=
    ⟨_, _, _, _, _, _, reaches, by rfl⟩
  have quiet : slowWorld.Quiet := ⟨fun _ => rfl, fun _ => rfl⟩
  obtain ⟨-, early, ending⟩ := failures_are_told_once_unless_wait_fails_first slowWorld quiet rfl
    impatientLine (.empty none) connects rfl
  have logging := logging_of_connects (.empty none) connects
  rw [show slowWorld.logging? .default = _ from logs] at logging
  rw [(early _ _ first).2.1, ending _ _ _ _ _ _ _ _ missed reaches (by rfl),
    ← Option.some.inj logging]
  decide +kernel

end Slow

end Run

end BusBridge
