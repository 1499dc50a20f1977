import BusBridge.Proofs.LeadingFlags
import BusBridge.Proofs.Requests
import BusBridge.Proofs.RunStreams
import BusBridge.Run.Stages

/-!
# The order of the effects of a run

A run goes through its stages in one order, and the first failure is its last stage.  The
effects up to the description of the remote object are known from where the run halts; what
the command adds to them are the requests of one operation of the session.
-/

namespace BusBridge

namespace Connection

variable {σ : Type} {before middle after : Connection σ} {stages : List Stage}

/-- From one connection to the other the bus was asked for the first of these stages. -/
def Asked (before after : Connection σ) (stages : List Stage) : Prop :=
  ∃ requests, after.requests = before.requests ++ requests ∧
    requests.map BusRequest.stage <+: stages

theorem Reached.asked {requests : List BusRequest} {bus : σ}
    (reached : before.Reached after requests bus)
    (first : requests.map BusRequest.stage <+: stages) : before.Asked after stages :=
  ⟨requests, reached.requests_eq, first⟩

/-- One request more at the beginning is one stage more. -/
theorem Reached.then_asked {request : BusRequest} {bus : σ}
    (reached : before.Reached middle [request] bus) (asked : middle.Asked after stages) :
    before.Asked after (request.stage :: stages) := by
  obtain ⟨requests, more, first⟩ := asked
  refine ⟨request :: requests, ?_, ?_⟩
  · rw [more, reached.requests_eq, List.append_assoc, List.singleton_append]
  · rw [List.map_cons]
    exact List.cons_prefix_cons.mpr ⟨rfl, first⟩

theorem asked_of_report {events : List Log.Event}
    (asked : (before.report events).Asked after stages) : before.Asked after stages := by
  obtain ⟨requests, more, first⟩ := asked
  rw [requests_report] at more
  exact ⟨requests, more, first⟩

end Connection

namespace Session

variable {σ : Type}

section Operations

variable {session : Session σ} {signals : SignalSet} (connection : Connection σ)

theorem asked_armThen {α : Type} {stages : List Stage}
    (go : ArmedWait → Connection σ → Outcome α × Connection σ)
    (goes : ∀ (armed : ArmedWait) (ready : Connection σ),
      ready.Asked (go armed ready).2 stages) :
    connection.Asked (session.armThen signals go connection).2 (.subscription :: stages) := by
  by_cases published : ∀ name ∈ signals.names, session.interface.hasSignal name = true
  · cases subscribed : (session.bus.subscribe session.target connection.bus).1 with
    | error reason =>
        obtain ⟨-, reached⟩ := armThen_of_refused connection go published subscribed
        exact reached.asked (List.cons_prefix_cons.mpr ⟨rfl, List.nil_prefix⟩)
    | ok subscription =>
        obtain ⟨arms, reached⟩ :=
          arm_of_accepted connection (validate_eq_ok_iff.mpr published) subscribed
        rw [armThen_of_arm_eq_ok connection go arms]
        exact reached.then_asked (goes _ _)
  · have unknown : ∃ name ∈ signals.names, session.interface.hasSignal name = false := by
      simpa using published
    obtain ⟨-, reached⟩ := armThen_of_unknown connection go unknown
    exact reached.asked List.nil_prefix

theorem asked_wait (limit : WaitLimit) :
    connection.Asked (session.wait signals limit connection).2
      (Command.signal signals limit).stages := by
  rw [wait_eq_armThen]
  refine asked_armThen connection _ fun armed ready => ?_
  exact (session.reached_waitArmed armed limit ready).asked List.nil_prefix

theorem asked_invokeAndWait (method : String) (tokens : List String) (limit : WaitLimit) :
    connection.Asked (session.invokeAndWait method tokens signals limit connection).2
      (Command.method method tokens signals limit).stages := by
  cases chosen : session.prepare method tokens with
  | error error =>
      have refused := @invokeAndWait_of_prepare_eq_error _ _ _ _ signals limit connection _ chosen
      exact refused.2.asked List.nil_prefix
  | ok prepared =>
      rw [Command.stages]
      cases asked : signals.isEmpty with
      | true =>
          rw [if_pos rfl]
          exact (invokeAndWait_of_isEmpty limit connection asked chosen).asked List.prefix_rfl
      | false =>
          rw [if_neg Bool.false_ne_true, invokeAndWait_eq_armThen connection limit asked chosen]
          refine Connection.asked_of_report (asked_armThen _ _ fun armed ready => ?_)
          exact (session.reached_callArmed _ armed limit ready).asked List.prefix_rfl

end Operations

end Session

namespace Run

variable {σ : Type} {world : World σ} {arguments : List RawText} {typed : TypedRequest}
  {settings : Settings} {command : Command} {connection : Connection σ} (output : Sink)

section Requests

theorem finish_connection {α : Type} (shown : α → Sink → Ending × Sink)
    (result : Outcome α × Connection σ) : (finish shown output result).2.2 = result.2 := by
  obtain ⟨outcome, after⟩ := result
  cases outcome <;> rfl

/-- Carrying out a command asks the bus for nothing but what the command needs. -/
theorem asked_perform (session : Session σ) (command : Command) (format : OutputFormat)
    (connection : Connection σ) :
    connection.Asked (perform session command format output connection).2.2 command.stages := by
  cases command with
  | api => exact ⟨[], (List.append_nil _).symm, List.nil_prefix⟩
  | signal signals limit =>
      rw [perform, finish_connection]
      exact Session.asked_wait connection limit
  | method name tokens signals limit =>
      rw [perform, finish_connection]
      exact Session.asked_invokeAndWait connection name tokens limit

theorem effects_of_connects
    (connects : Connects world arguments typed command settings connection) :
    (ofArguments world arguments output).effects =
      [.loadSettings (flags arguments), .setUpLogging, .connect settings.bus] ++
        (serve world command typed.format output connection).2.2.requests.map .request := by
  obtain ⟨logging, -, run⟩ := ofArguments_of_connects output connects
  rw [run]

theorem serve_of_unresolved (format : OutputFormat) (command : Command) {error : SessionError}
    (unresolved : (Session.resolve world.bus world.scheduler Target.nickel connection).1 =
      .error error) :
    serve world command format output connection =
      (.failed (.session error), output,
        (Session.resolve world.bus world.scheduler Target.nickel connection).2) := by
  rw [serve]
  revert unresolved
  rcases Session.resolve world.bus world.scheduler Target.nickel connection with ⟨_ | _, _⟩
  · rintro ⟨⟩
    rfl
  · rintro ⟨⟩

theorem Connects.requests_eq
    (connects : Connects world arguments typed command settings connection) :
    connection.requests = [] := by
  obtain ⟨state, -, rfl⟩ := connects.connect_eq
  rw [Connection.requests_report, Connection.requests_start]

/-- Without a session nothing but the description was asked for. -/
theorem ofArguments_of_unresolved {error : SessionError}
    (connects : Connects world arguments typed command settings connection)
    (unresolved : (Session.resolve world.bus world.scheduler Target.nickel connection).1 =
      .error error) :
    (ofArguments world arguments output).ending = .failed (.session error) ∧
      (ofArguments world arguments output).effects =
        [.loadSettings (flags arguments), .setUpLogging, .connect settings.bus,
          .request (.introspect Target.nickel)] := by
  have served := serve_of_unresolved output typed.format command unresolved
  constructor
  · rw [(served_of_connects output connects).1, served]
  · rw [effects_of_connects output connects, served, Session.requests_resolve,
      connects.requests_eq]
    rfl

end Requests

section Halting

theorem Halts.run {error : RunError} {effects : List Effect}
    (halts : Halts world arguments error effects) :
    (ofArguments world arguments output).ending = .failed error ∧
      (ofArguments world arguments output).effects = effects := by
  cases halts with
  | unconnected halts =>
      obtain ⟨ended, -, done⟩ := halts.run output
      exact ⟨ended, done⟩
  | noDescription connects unanswered =>
      exact ofArguments_of_unresolved output connects (Session.resolve_of_unanswered unanswered)
  | noInterface connects described missing =>
      exact ofArguments_of_unresolved output connects
        (Session.resolve_of_missing described missing)

theorem HaltsUnconnected.stages {error : RunError} {effects : List Effect}
    (halts : HaltsUnconnected world arguments error effects) :
    effects.map Effect.stage <+: opening := by
  cases halts with
  | misread _ => exact List.nil_prefix
  | _ => exact ⟨_, rfl⟩

/-- What is done before a run halts are the first stages of the opening. -/
theorem Halts.stages {error : RunError} {effects : List Effect}
    (halts : Halts world arguments error effects) :
    effects.map Effect.stage <+: opening := by
  cases halts with
  | unconnected halts => exact halts.stages
  | noDescription _ _ => exact List.prefix_rfl
  | noInterface _ _ _ => exact List.prefix_rfl

theorem effects_of_stopped {stop : CommandLine.Stop} (stopped : asked arguments = .error stop) :
    (ofArguments world arguments output).effects = [] := by
  rw [ofArguments_eq, stopped]
  cases stop <;> rfl

theorem command?_of_connects
    (connects : Connects world arguments typed command settings connection) :
    command? arguments = some command := by
  rw [command?, connects.setsUp.asked_eq]
  dsimp only
  rw [connects.command_eq]
  rfl

/-- In a session a run goes on with what the command needs. -/
theorem effects_of_reaches {format : OutputFormat} {session : Session σ}
    (reaches : Reaches world arguments format command session connection) :
    command? arguments = some command ∧
      ∃ (settings : Settings) (requests : List BusRequest),
        world.load (flags arguments) = .ok settings ∧
        (ofArguments world arguments output).effects =
          [.loadSettings (flags arguments), .setUpLogging, .connect settings.bus,
            .request (.introspect Target.nickel)] ++ requests.map .request ∧
        requests.map BusRequest.stage <+: command.stages := by
  obtain ⟨typed, settings, first, rfl, connects, resolved⟩ := reaches
  obtain ⟨requests, more, stages⟩ := asked_perform output session command typed.format connection
  have asked := Session.requests_resolve world.bus world.scheduler Target.nickel first
  rw [resolved, connects.requests_eq] at asked
  refine ⟨command?_of_connects connects, settings, requests, connects.setsUp.load_eq, ?_, stages⟩
  rw [effects_of_connects output connects, serve, resolved]
  dsimp only
  rw [more, asked]
  rfl

/-- A command line that is read leads to a failure or into a session. -/
theorem halts_or_reaches (world : World σ) (arguments : List RawText) :
    (∃ stop, asked arguments = .error stop) ∨
      (∃ error effects, Halts world arguments error effects) ∨
      ∃ format command session connection,
        Reaches world arguments format command session connection := by
  obtain ⟨ending, text, course⟩ := Course.total world arguments
  cases course with
  | informed stopped shown => exact .inl ⟨_, stopped⟩
  | unconnected halts => exact .inr (.inl ⟨_, _, .unconnected halts⟩)
  | @noSession typed command settings connection error connects unresolved =>
      refine .inr (.inl ?_)
      cases described : (world.bus.introspect Target.nickel connection.bus).1 with
      | error reason => exact ⟨_, _, .noDescription connects described⟩
      | ok interfaces =>
          cases found : Interface.find? interfaces Target.nickel.interface with
          | none => exact ⟨_, _, .noInterface connects described found⟩
          | some interface =>
              cases (Session.resolve_of_found described found).symm.trans unresolved
  | carriedOut reaches ends => exact .inr (.inr ⟨_, _, _, _, reaches⟩)

end Halting

section Order

theorem nodup_itinerary (arguments : List RawText) : (itinerary arguments).Nodup := by
  have distinct (command : Command) : (opening ++ command.stages).Nodup := by
    cases command with
    | api => decide
    | signal signals limit =>
        rw [Command.stages]
        decide
    | method name tokens signals limit =>
        rw [Command.stages]
        split <;> decide
  rw [itinerary]
  cases command? arguments with
  | none => decide
  | some command => exact distinct command

theorem stages_prefix_itinerary (world : World σ) (arguments : List RawText) (output : Sink) :
    (ofArguments world arguments output).effects.map Effect.stage <+: itinerary arguments := by
  rcases halts_or_reaches world arguments with ⟨stop, stopped⟩ | ⟨error, effects, halts⟩ |
    ⟨format, command, session, connection, reaches⟩
  · rw [effects_of_stopped output stopped]
    exact List.nil_prefix
  · rw [(halts.run output).2]
    exact halts.stages.trans (List.prefix_append _ _)
  · obtain ⟨asked, settings, requests, -, effects_eq, stages⟩ :=
      effects_of_reaches output reaches
    rw [effects_eq, itinerary, asked, List.map_append, List.map_map]
    exact (List.prefix_append_right_inj opening).mpr stages

/-- Only the flags and the bus of the settings are handed on. -/
theorem effects_given (world : World σ) (arguments : List RawText) (output : Sink) :
    (∀ words, .loadSettings words ∈ (ofArguments world arguments output).effects →
        words = flags arguments) ∧
      ∀ kind, .connect kind ∈ (ofArguments world arguments output).effects →
        ∃ settings, world.load (flags arguments) = .ok settings ∧ kind = settings.bus := by
  rcases halts_or_reaches world arguments with ⟨stop, stopped⟩ | ⟨error, effects, halts⟩ |
    ⟨format, command, session, connection, reaches⟩
  · rw [effects_of_stopped output stopped]
    exact ⟨nofun, nofun⟩
  · rw [(halts.run output).2]
    cases halts with
    | unconnected halts =>
        cases halts with
        | misread stopped => exact ⟨nofun, nofun⟩
        | noConnection setsUp typed_ok starts refused => simp [setsUp.load_eq]
        | _ => simp
    | noDescription connects unanswered => simp [connects.setsUp.load_eq]
    | noInterface connects described missing => simp [connects.setsUp.load_eq]
  · obtain ⟨-, settings, requests, loaded, effects_eq, -⟩ := effects_of_reaches output reaches
    rw [effects_eq]
    simp [loaded]

/-- What the loading does with other words, and what the other bus does, is of no concern. -/
theorem ofArguments_congr (load : List RawText → Except SettingsError Settings)
    (connect : BusKind → Except String σ)
    (same : load (flags arguments) = world.load (flags arguments))
    (alike : ∀ settings, world.load (flags arguments) = .ok settings →
      connect settings.bus = world.connect settings.bus) :
    ofArguments { world with load, connect } arguments output =
      ofArguments world arguments output := by
  rw [ofArguments_eq, ofArguments_eq]
  cases asked arguments with
  | error stop => cases stop <;> rfl
  | ok typed =>
      dsimp only
      rw [execute, execute]
      dsimp only
      rw [same]
      cases loaded : world.load (flags arguments) with
      | error error => rfl
      | ok settings =>
          dsimp only
          rw [withSettings, withSettings]
          dsimp only
          have onSameBus (logging : Logging) (command : Command) (effects : List Effect) :
              onBus { world with load, connect } settings logging command typed.format output
                  effects =
                onBus world settings logging command typed.format output effects := by
            rw [onBus, onBus]
            dsimp only
            rw [alike settings loaded]
            rfl
          simp only [withLogging, onSameBus]

/-- A blank name is found before a connection is made, whatever else would fail. -/
theorem connect_not_mem_of_hasBlankName (read : asked arguments = .ok typed)
    (blank : Command.HasBlankName typed.command) (kind : BusKind) :
    .connect kind ∉ (ofArguments world arguments output).effects := by
  obtain ⟨error, refused⟩ := Command.ofTyped_of_hasBlankName blank
  have halts : ∃ error effects, HaltsUnconnected world arguments error effects ∧
      .connect kind ∉ effects := by
    cases loaded : world.load (flags arguments) with
    | error unknown => exact ⟨_, _, .noSettings read loaded, by simp⟩
    | ok settings =>
        cases logs : world.logging? settings with
        | none => exact ⟨_, _, .noLogging read loaded logs, by simp⟩
        | some logging =>
            cases installs : world.install logging with
            | error reason => exact ⟨_, _, .noSubscriber read loaded logs installs, by simp⟩
            | ok =>
                have setsUp : SetsUp world arguments typed settings :=
                  ⟨read, loaded, logging, logs, installs⟩
                exact ⟨_, _, .noCommand setsUp refused, by simp⟩
  obtain ⟨error, effects, halts, unconnected⟩ := halts
  rw [(halts.run output).2.2]
  exact unconnected

end Order

/-- A run goes through its stages in one order and stops at the first failure.  Its effects
are the first ones of its itinerary, so that no stage comes twice; they are known from the
rule by which it halts, or else, in a session, up to what the command needs.  The loading of
the settings hears of the flags before the command and of nothing else, and the connection is
made to the bus of the settings: on other words and on the other bus the world may do
anything. -/
theorem effects_follow_itinerary {σ : Type} (world : World σ) (arguments : List RawText)
    (output : Sink) :
    let run := ofArguments world arguments output
    run.effects.map Effect.stage <+: itinerary arguments ∧
      (run.effects.map Effect.stage).Nodup ∧
      ((∃ stop, asked arguments = .error stop) ∨
        (∃ error effects, Halts world arguments error effects) ∨
        ∃ format command session connection,
          Reaches world arguments format command session connection) ∧
      (∀ stop, asked arguments = .error stop → run.effects = []) ∧
      (∀ error effects, Halts world arguments error effects →
        run.ending = .failed error ∧ run.effects = effects) ∧
      (∀ format command session connection,
        Reaches world arguments format command session connection →
          command? arguments = some command ∧
          ∃ (settings : Settings) (requests : List BusRequest),
            world.load (flags arguments) = .ok settings ∧
            run.effects =
              [.loadSettings (flags arguments), .setUpLogging, .connect settings.bus,
                .request (.introspect Target.nickel)] ++ requests.map .request ∧
            requests.map BusRequest.stage <+: command.stages) ∧
      (∀ typed, asked arguments = .ok typed → Command.HasBlankName typed.command →
        ∀ kind, .connect kind ∉ run.effects) ∧
      (∀ words, .loadSettings words ∈ run.effects → words = flags arguments) ∧
      (∀ kind, .connect kind ∈ run.effects →
        ∃ settings, world.load (flags arguments) = .ok settings ∧ kind = settings.bus) ∧
      (∃ rest, arguments = flags arguments ++ rest ∧
        CommandLine.FlagGroups (flags arguments).tail ∧
        ∀ word, rest.head? = some word → ¬ CommandLine.BeginsGroup word) ∧
      ∀ (load : List RawText → Except SettingsError Settings) (connect : BusKind → Except String σ),
        load (flags arguments) = world.load (flags arguments) →
        (∀ settings, world.load (flags arguments) = .ok settings →
          connect settings.bus = world.connect settings.bus) →
        ofArguments { world with load, connect } arguments output = run := by
  intro run
  have first := stages_prefix_itinerary world arguments output
  obtain ⟨loads, connects⟩ := effects_given world arguments output
  refine ⟨first, (nodup_itinerary arguments).sublist first.sublist,
    halts_or_reaches world arguments, ?_, ?_, ?_, ?_, loads, connects, flags_spec arguments, ?_⟩
  · intro stop stopped
    exact effects_of_stopped output stopped
  · intro error effects halts
    exact halts.run output
  · intro format command session connection reaches
    exact effects_of_reaches output reaches
  · intro typed read blank kind
    exact connect_not_mem_of_hasBlankName output read blank kind
  · intro load connect same alike
    exact ofArguments_congr output load connect same alike

/-- The bus refuses the subscription, so that the call is never made. -/
example :
    let script : Script :=
      { Script.publishing [Interface.nickel] with subscriptionError := some "no more match rules" }
    let world := World.rehearsed (fun _ => .ok ⟨.session, "info", .compact⟩) script none
    let words := ["ndb-cli", "--bus", "session", "method", "ndbVersion", "--signal",
      "pfmDoneProcessing"]
    (ofArguments world (words.map RawText.ofString) (.empty none)).effects =
      [.loadSettings (["ndb-cli", "--bus", "session"].map RawText.ofString), .setUpLogging,
        .connect .session, .request (.introspect Target.nickel),
        .request (.subscribe Target.nickel false)] := by
  decide +kernel

end Run

end BusBridge
