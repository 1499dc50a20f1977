import BusBridge.Interface.Nickel
import BusBridge.Run.Course
import BusBridge.World

/-!
# What a run shows, and how it ends

On an output that takes everything nothing fails to be written, so that a run takes exactly
one of its courses.  What it shows and how it ends can be read off that course.
-/

namespace BusBridge

namespace RawText

end RawText

namespace Sink

/-- An output that takes everything and to which this text was written. -/
def showing (text : String) : Sink :=
  ⟨(RawText.ofString text).bytes, none⟩

theorem showing_empty : showing "" = .empty none := by
  rfl

theorem put_showing (text more : String) :
    (showing text).put (RawText.ofString more).bytes = (true, showing (text ++ more)) := by
  rw [put, showing, showing, RawText.bytes_append]

theorem write_showing (text : String) (pieces : List OutputPiece) :
    (showing text).write pieces = (.ok (), showing (text ++ Output.text pieces)) := by
  induction pieces generalizing text with
  | nil =>
      rw [write, Output.text]
      simp
  | cons piece rest ih =>
      rw [write, put_showing]
      dsimp only
      rw [ih, Output.text, Output.text, List.map_cons, String.join_cons, String.append_assoc]

end Sink

section Endings

variable {format : OutputFormat} {ending : Ending} {text : String}

theorem Arrival.Ends.total (outcome : Outcome Arrival) :
    ∃ ending text, Arrival.Ends format outcome ending text := by
  cases outcome with
  | done arrival => exact ⟨_, _, .arrived arrival⟩
  | failed error => exact ⟨_, _, .failed error⟩
  | pending => exact ⟨_, _, .pending⟩

theorem CallReport.Ends.total (outcome : Outcome CallReport) :
    ∃ ending text, CallReport.Ends format outcome ending text := by
  cases outcome with
  | done report =>
      obtain ⟨reply, wait?⟩ := report
      cases wait? with
      | none => exact ⟨_, _, .replied reply⟩
      | some result =>
          cases result with
          | ok arrival => exact ⟨_, _, .arrived reply arrival⟩
          | error error => exact ⟨_, _, .missed reply error⟩
  | failed error => exact ⟨_, _, .failed error⟩
  | pending => exact ⟨_, _, .pending⟩

variable {σ : Type}

theorem Arrival.Ends.finish {outcome : Outcome Arrival} (after : Connection σ)
    (ends : Arrival.Ends format outcome ending text) :
    Run.finish
        (fun arrival output => Ending.ofWritten (output.write (Output.arrival format arrival)))
        (.showing "") (outcome, after) =
      (ending, .showing text, after) := by
  cases ends with
  | arrived arrival => simp [Run.finish, Sink.write_showing, Ending.ofWritten]
  | failed error => rfl
  | pending => rfl

theorem CallReport.Ends.finish {outcome : Outcome CallReport} (after : Connection σ)
    (ends : CallReport.Ends format outcome ending text) :
    Run.finish (Run.present format) (.showing "") (outcome, after) =
      (ending, .showing text, after) := by
  cases ends with
  | replied reply => simp [Run.finish, Run.present, Sink.write_showing]
  | arrived reply arrival =>
      simp [Run.finish, Run.present, Sink.write_showing, Ending.ofWritten]
  | missed reply error => simp [Run.finish, Run.present, Sink.write_showing]
  | failed error => rfl
  | pending => rfl

variable {session : Session σ} {connection : Connection σ} {command : Command}

theorem Command.Ends.total (command : Command) :
    ∃ ending text, command.Ends format session connection ending text := by
  cases command with
  | api => exact ⟨_, _, .api⟩
  | signal signals limit =>
      obtain ⟨ending, text, ends⟩ := Arrival.Ends.total (session.wait signals limit connection).1
      exact ⟨ending, text, .signal ends⟩
  | method name tokens signals limit =>
      obtain ⟨ending, text, ends⟩ := CallReport.Ends.total
        (session.invokeAndWait name tokens signals limit connection).1
      exact ⟨ending, text, .method ends⟩

theorem Command.Ends.perform (ends : command.Ends format session connection ending text) :
    ∃ after, Run.perform session command format (.showing "") connection =
      (ending, .showing text, after) := by
  cases ends with
  | api => exact ⟨connection, by simp [Run.perform, Sink.write_showing, Ending.ofWritten]⟩
  | signal ends => exact ⟨_, ends.finish _⟩
  | method ends => exact ⟨_, ends.finish _⟩

end Endings

namespace Run

section Courses

variable {σ : Type} {world : World σ} {arguments : List RawText} {typed : TypedRequest}
  {settings : Settings} {command : Command} {connection : Connection σ} (output : Sink)

theorem ofArguments_eq (world : World σ) (arguments : List RawText) (output : Sink) :
    ofArguments world arguments output =
      match asked arguments with
      | .ok typed => execute world (flags arguments) typed output
      | .error (.usage error) =>
        refused (world.wording.usageError (words arguments) error) output []
      | .error (.help topic long) => showing (CommandLine.Help.text topic long) output
      | .error .version => showing CommandLine.Help.version output :=
  rfl

theorem ofArguments_of_shown {stop : CommandLine.Stop} {text : String}
    (stopped : asked arguments = .error stop) (shown : stop.shown? = some text) :
    ofArguments world arguments output = showing text output := by
  rw [ofArguments_eq, stopped]
  cases stop with
  | usage error => cases shown
  | help topic long =>
      obtain rfl := Option.some.inj shown
      rfl
  | version =>
      obtain rfl := Option.some.inj shown
      rfl

theorem ofArguments_of_load (read : asked arguments = .ok typed)
    (loaded : world.load (flags arguments) = .ok settings) :
    ofArguments world arguments output =
      withSettings world settings typed output [.loadSettings (flags arguments)] := by
  rw [ofArguments_eq, read]
  dsimp only
  rw [execute, loaded]

theorem ofArguments_of_setsUp (setsUp : SetsUp world arguments typed settings) :
    ∃ logging, world.logging? settings = some logging ∧
      ofArguments world arguments output =
        withLogging world settings logging typed output
          [.loadSettings (flags arguments), .setUpLogging] := by
  obtain ⟨logging, logs, installs⟩ := setsUp.logs
  refine ⟨logging, logs, ?_⟩
  rw [ofArguments_of_load output setsUp.asked_eq setsUp.load_eq, withSettings, logs]
  dsimp only
  rw [installs]
  rfl

theorem ofArguments_of_starts (setsUp : SetsUp world arguments typed settings)
    (typed_ok : Command.ofTyped typed.command = .ok command)
    (starts : world.startRuntime = .ok ()) :
    ∃ logging, world.logging? settings = some logging ∧
      ofArguments world arguments output =
        onBus world settings logging command typed.format output
          [.loadSettings (flags arguments), .setUpLogging] := by
  obtain ⟨logging, logs, run⟩ := ofArguments_of_setsUp output setsUp
  refine ⟨logging, logs, ?_⟩
  rw [run, withLogging, typed_ok]
  dsimp only
  rw [starts]

/-- A run that halts before it has a connection shows nothing. -/
theorem HaltsUnconnected.run {error : RunError} {effects : List Effect}
    (halts : HaltsUnconnected world arguments error effects) :
    (ofArguments world arguments output).ending = .failed error ∧
      (ofArguments world arguments output).output = output ∧
      (ofArguments world arguments output).effects = effects := by
  cases halts with
  | misread stopped =>
      rw [ofArguments_eq, stopped]
      exact ⟨rfl, rfl, rfl⟩
  | noSettings read unknown =>
      rw [ofArguments_eq, read]
      dsimp only
      rw [execute, unknown]
      exact ⟨rfl, rfl, rfl⟩
  | noLogging read loaded unreadable =>
      rw [ofArguments_of_load _ read loaded, withSettings, unreadable]
      exact ⟨rfl, rfl, rfl⟩
  | noSubscriber read loaded logs refused =>
      rw [ofArguments_of_load _ read loaded, withSettings, logs]
      dsimp only
      rw [refused]
      exact ⟨rfl, rfl, rfl⟩
  | noCommand setsUp blank =>
      obtain ⟨logging, -, run⟩ := ofArguments_of_setsUp output setsUp
      rw [run, withLogging, blank]
      exact ⟨rfl, rfl, rfl⟩
  | noRuntime setsUp typed_ok refused =>
      obtain ⟨logging, -, run⟩ := ofArguments_of_setsUp output setsUp
      rw [run, withLogging, typed_ok]
      dsimp only
      rw [refused]
      exact ⟨rfl, rfl, rfl⟩
  | noConnection setsUp typed_ok starts refused =>
      obtain ⟨logging, -, run⟩ := ofArguments_of_starts output setsUp typed_ok starts
      rw [run, onBus, refused]
      exact ⟨rfl, rfl, rfl⟩

/-- Once there is a connection, the rest is done there. -/
theorem ofArguments_of_connects
    (connects : Connects world arguments typed command settings connection) :
    ∃ logging, world.logging? settings = some logging ∧
      let served := serve world command typed.format output connection
      ofArguments world arguments output =
        ⟨served.1, served.2.1,
          [.loadSettings (flags arguments), .setUpLogging, .connect settings.bus] ++
            served.2.2.requests.map .request,
          logging, served.2.2.reports ++ served.1.reports, some served.2.2⟩ := by
  obtain ⟨state, connected, rfl⟩ := connects.connect_eq
  obtain ⟨logging, logs, run⟩ :=
    ofArguments_of_starts output connects.setsUp connects.command_eq connects.starts
  refine ⟨logging, logs, ?_⟩
  rw [run, onBus, connected]
  rfl

theorem served_of_connects
    (connects : Connects world arguments typed command settings connection) :
    let served := serve world command typed.format output connection
    (ofArguments world arguments output).ending = served.1 ∧
      (ofArguments world arguments output).output = served.2.1 := by
  obtain ⟨logging, -, run⟩ := ofArguments_of_connects output connects
  rw [run]
  exact ⟨rfl, rfl⟩

/-- A run takes every course that it has, so that it has only one. -/
theorem Course.run {ending : Ending} {text : String}
    (course : Course world arguments ending text) :
    (ofArguments world arguments (.showing "")).ending = ending ∧
      (ofArguments world arguments (.showing "")).output = .showing text := by
  cases course with
  | informed stopped shown =>
      rw [ofArguments_of_shown _ stopped shown, showing, Sink.put_showing]
      exact ⟨rfl, congrArg Sink.showing String.empty_append⟩
  | unconnected halts =>
      obtain ⟨ended, shown, -⟩ := halts.run (.showing "")
      exact ⟨ended, shown⟩
  | noSession connects unresolved =>
      obtain ⟨ended, shown⟩ := served_of_connects (.showing "") connects
      rw [ended, shown, serve]
      cases resolved : Session.resolve world.bus world.scheduler Target.nickel _ with
      | mk answer ready =>
          rw [resolved] at unresolved
          cases unresolved
          exact ⟨rfl, rfl⟩
  | carriedOut reaches ends =>
      obtain ⟨typed, settings, first, rfl, connects, resolved⟩ := reaches
      obtain ⟨ended, shown⟩ := served_of_connects (.showing "") connects
      obtain ⟨after, performed⟩ := ends.perform
      rw [ended, shown, serve, resolved]
      dsimp only
      rw [performed]
      exact ⟨rfl, rfl⟩

theorem Course.total_of_connects
    (connects : Connects world arguments typed command settings connection) :
    ∃ ending text, Course world arguments ending text := by
  cases resolved : Session.resolve world.bus world.scheduler Target.nickel connection with
  | mk answer ready =>
      cases answer with
      | error error => exact ⟨_, _, .noSession connects (congrArg Prod.fst resolved)⟩
      | ok session =>
          have reaches : Reaches world arguments typed.format command session ready :=
            ⟨typed, settings, connection, rfl, connects, resolved⟩
          obtain ⟨ending, text, ends⟩ := Command.Ends.total command
          exact ⟨ending, text, .carriedOut reaches ends⟩

theorem Course.total_of_setsUp (setsUp : SetsUp world arguments typed settings) :
    ∃ ending text, Course world arguments ending text := by
  cases command_eq : Command.ofTyped typed.command with
  | error error => exact ⟨_, _, .unconnected (.noCommand setsUp command_eq)⟩
  | ok command =>
      cases starts : world.startRuntime with
      | error reason => exact ⟨_, _, .unconnected (.noRuntime setsUp command_eq starts)⟩
      | ok =>
          cases connected : world.connect settings.bus with
          | error reason =>
              exact ⟨_, _, .unconnected (.noConnection setsUp command_eq starts connected)⟩
          | ok state => exact total_of_connects ⟨setsUp, command_eq, starts, state, connected, rfl⟩

theorem Course.total (world : World σ) (arguments : List RawText) :
    ∃ ending text, Course world arguments ending text := by
  cases read : asked arguments with
  | error stop =>
      cases shown : stop.shown? with
      | some text => exact ⟨_, _, .informed read shown⟩
      | none =>
          cases stop with
          | usage error => exact ⟨_, _, .unconnected (.misread read)⟩
          | help topic long => cases shown
          | version => cases shown
  | ok typed =>
      cases loaded : world.load (flags arguments) with
      | error error => exact ⟨_, _, .unconnected (.noSettings read loaded)⟩
      | ok settings =>
          cases logs : world.logging? settings with
          | none => exact ⟨_, _, .unconnected (.noLogging read loaded logs)⟩
          | some logging =>
              cases installs : world.install logging with
              | error reason =>
                  exact ⟨_, _, .unconnected (.noSubscriber read loaded logs installs)⟩
              | ok => exact total_of_setsUp ⟨read, loaded, logging, logs, installs⟩

theorem Course.shows {ending : Ending} {text : String}
    (course : Course world arguments ending text) :
    (ofArguments world arguments (.empty none)).ending = ending ∧
      (ofArguments world arguments (.empty none)).output.accepted =
        (RawText.ofString text).bytes := by
  obtain ⟨ended, shown⟩ := course.run
  rw [Sink.showing_empty] at ended shown
  exact ⟨ended, congrArg Sink.accepted shown⟩

end Courses

/-- A command line without any words is answered in the words of the library. -/
example {σ : Type} (world : World σ) :
    (ofArguments world [.ofString "ndb-cli"] (.empty none)).ending.standardError =
      world.wording.usage [.ofString "ndb-cli"] .nothingGiven ++ "\n" :=
  rfl

/-- The stream closes before the signal, and the reply was shown already. -/
example :
    let script : Script :=
      { Script.publishing [Interface.nickel] with
        replies := [("ndbVersion", [.string "0.2.0"])]
        closing := true }
    let world := World.rehearsed (fun _ => .ok ⟨.system, "info", .compact⟩) script none
    let words := ["ndb-cli", "method", "ndbVersion", "--signal", "pfmDoneProcessing"]
    let run := ofArguments world (words.map RawText.ofString) (.empty none)
    run.output.accepted = (RawText.ofString "0.2.0\n").bytes ∧
      run.ending.standardError = "error waiting for signal after method call: " ++
        "signal subscription failed: notification stream closed\n" := by
  decide +kernel

end Run

end BusBridge
