import BusBridge.Proofs.RunStreams
import BusBridge.Proofs.WrittenRequests

/-!
# An output with limited room

What does not fit on the output is lost, and everything before it stays.  Which failure is
reported depends on where the first byte stands that does not fit, and not on how a result is
divided into writes.
-/

namespace BusBridge

namespace OutputPiece

def bytes (piece : OutputPiece) : List UInt8 :=
  (RawText.ofString piece.text).bytes

end OutputPiece

namespace Output

/-- A result that can be shown. -/
inductive Result
  | reply (values : List Value)
  | arrival (arrival : Arrival)
  | api (interface : Interface)

def Result.pieces (format : OutputFormat) : Result → List OutputPiece
  | reply values => Output.reply format values
  | arrival met => Output.arrival format met
  | api interface => Output.api format interface

def bytes (pieces : List OutputPiece) : List UInt8 :=
  pieces.flatMap OutputPiece.bytes

/-- For every byte, what it means if this is the first that does not fit. -/
def failures (pieces : List OutputPiece) : List OutputError :=
  pieces.flatMap fun piece => List.replicate piece.bytes.length piece.failure

/-- The parts are smaller writes that make up the pieces.  A part fails as its piece does. -/
inductive Cut : List OutputPiece → List OutputPiece → Prop
  | nil : Cut [] []
  | cons {piece : OutputPiece} {parts pieces others : List OutputPiece}
      (whole : text parts = piece.text) (alike : ∀ part ∈ parts, part.failure = piece.failure)
      (rest : Cut pieces others) : Cut (piece :: pieces) (parts ++ others)

section Bytes

variable {piece : OutputPiece} {first second pieces parts : List OutputPiece}

@[simp]
theorem bytes_nil : bytes [] = [] :=
  rfl

@[simp]
theorem bytes_cons : bytes (piece :: pieces) = piece.bytes ++ bytes pieces :=
  List.flatMap_cons

@[simp]
theorem bytes_append : bytes (first ++ second) = bytes first ++ bytes second :=
  List.flatMap_append

@[simp]
theorem failures_nil : failures [] = [] :=
  rfl

@[simp]
theorem failures_cons :
    failures (piece :: pieces) =
      List.replicate piece.bytes.length piece.failure ++ failures pieces :=
  List.flatMap_cons

@[simp]
theorem failures_append : failures (first ++ second) = failures first ++ failures second :=
  List.flatMap_append

@[simp]
theorem length_failures (pieces : List OutputPiece) :
    (failures pieces).length = (bytes pieces).length := by
  induction pieces with
  | nil => rfl
  | cons piece rest ih => simp [ih]

theorem bytes_eq_text (pieces : List OutputPiece) :
    bytes pieces = (RawText.ofString (text pieces)).bytes := by
  induction pieces with
  | nil => rfl
  | cons piece rest ih =>
      rw [bytes_cons, ih, text, text, List.map_cons, String.join_cons, RawText.bytes_append]
      rfl

theorem failures_of_alike {failure : OutputError}
    (alike : ∀ part ∈ parts, part.failure = failure) :
    failures parts = List.replicate (bytes parts).length failure := by
  induction parts with
  | nil => rfl
  | cons part rest ih =>
      obtain ⟨here, later⟩ := List.forall_mem_cons.mp alike
      rw [failures_cons, bytes_cons, here, ih later, List.length_append,
        List.replicate_append_replicate]

theorem Cut.bytes_eq (cut : Cut pieces parts) : bytes parts = bytes pieces := by
  induction cut with
  | nil => rfl
  | cons whole alike rest ih =>
      rw [bytes_append, bytes_cons, ih, bytes_eq_text, whole]
      rfl

theorem Cut.failures_eq (cut : Cut pieces parts) : failures parts = failures pieces := by
  induction cut with
  | nil => rfl
  | @cons piece parts pieces others whole alike rest ih =>
      have size : bytes parts = piece.bytes := by
        rw [bytes_eq_text, whole]
        rfl
      rw [failures_append, failures_cons, ih, failures_of_alike alike, size]

end Bytes

end Output

namespace Sink

open Output

variable {pieces parts : List OutputPiece}

theorem write_cons (sink : Sink) (piece : OutputPiece) (pieces : List OutputPiece) :
    sink.write (piece :: pieces) =
      match sink.put piece.bytes with
      | (true, next) => next.write pieces
      | (false, next) => (.error piece.failure, next) :=
  rfl

theorem write_append (sink : Sink) (first second : List OutputPiece) :
    sink.write (first ++ second) =
      match sink.write first with
      | (.ok (), next) => next.write second
      | (.error error, next) => (.error error, next) := by
  induction first generalizing sink with
  | nil => rfl
  | cons piece rest ih =>
      rw [List.cons_append, write_cons, write_cons]
      cases sink.put piece.bytes with
      | mk fits next =>
          cases fits with
          | true => exact ih next
          | false => rfl

theorem write_unlimited (accepted : List UInt8) (pieces : List OutputPiece) :
    (⟨accepted, none⟩ : Sink).write pieces = (.ok (), ⟨accepted ++ bytes pieces, none⟩) := by
  induction pieces generalizing accepted with
  | nil => simp [write]
  | cons piece rest ih => simp [write_cons, put, ih]

/-- The failure is that of the first byte that does not fit, if there is one. -/
theorem write_limited (accepted : List UInt8) (room : Nat) (pieces : List OutputPiece) :
    (⟨accepted, some room⟩ : Sink).write pieces =
      ((failures pieces)[room]?.elim (.ok ()) .error,
        ⟨accepted ++ (bytes pieces).take room, some (room - (bytes pieces).length)⟩) := by
  induction pieces generalizing accepted room with
  | nil => simp [write]
  | cons piece rest ih =>
      rw [write_cons, put]
      dsimp only
      by_cases fits : piece.bytes.length ≤ room
      · have whole : piece.bytes.take room = piece.bytes := List.take_of_length_le fits
        have later : (failures (piece :: rest))[room]? =
            (failures rest)[room - piece.bytes.length]? := by
          simp [List.getElem?_append_right, fits]
        rw [decide_eq_true fits, later]
        simp [ih, whole, List.take_append, Nat.sub_sub]
      · have here : (failures (piece :: rest))[room]? = some piece.failure := by
          rw [failures_cons, List.getElem?_append_left (by simpa using fits),
            List.getElem?_replicate, if_pos (Nat.lt_of_not_le fits)]
        have outside : room - piece.bytes.length = 0 := by omega
        have full : room - (piece.bytes.length + (bytes rest).length) = 0 := by omega
        rw [decide_eq_false fits, here]
        simp [outside, full, List.take_append]

/-- It makes no difference how a result is divided into writes. -/
theorem write_cut (cut : Cut pieces parts) (sink : Sink) :
    sink.write parts = sink.write pieces := by
  obtain ⟨accepted, room?⟩ := sink
  cases room? with
  | none => rw [write_unlimited, write_unlimited, cut.bytes_eq]
  | some room => rw [write_limited, write_limited, cut.bytes_eq, cut.failures_eq]

end Sink

namespace Output

section Failures

variable (json : Json) (room : Nat)

theorem bytes_document :
    bytes (document json) = (RawText.ofString json.compact).bytes ++ [0x0A] := by
  have newline : (RawText.ofString "\n").bytes = [0x0A] := by decide +kernel
  simp [document, OutputPiece.bytes, newline]

theorem failures_document :
    failures (document json) =
      List.replicate (RawText.ofString json.compact).bytes.length .serialise ++ [.write] := by
  have newline : (RawText.ofString "\n").bytes = [0x0A] := by decide +kernel
  simp [document, OutputPiece.bytes, newline]

theorem failure_document :
    (failures (document json))[room]? =
      if room + 1 < (bytes (document json)).length then some .serialise
      else if room + 1 = (bytes (document json)).length then some .write else none := by
  rw [failures_document, bytes_document, List.length_append, List.length_singleton]
  by_cases inside : room < (RawText.ofString json.compact).bytes.length
  · rw [List.getElem?_append_left (by simpa using inside), List.getElem?_replicate, if_pos inside,
      if_pos (by omega)]
  · rw [List.getElem?_append_right (by simpa using inside), List.length_replicate,
      if_neg (by omega)]
    split
    next last =>
      have start : room - (RawText.ofString json.compact).bytes.length = 0 := by omega
      rw [start]
      rfl
    next beyond => exact List.getElem?_eq_none (by simp; omega)

theorem failure_document_eq_serialise_iff :
    (failures (document json))[room]? = some .serialise ↔
      room + 1 < (bytes (document json)).length := by
  rw [failure_document]
  split
  · simp [*]
  · split <;> simp [*]

theorem failure_document_eq_write_iff :
    (failures (document json))[room]? = some .write ↔
      room + 1 = (bytes (document json)).length := by
  rw [failure_document]
  split
  · simp
    omega
  · split <;> simp [*]

/-- Of two documents the first one that does not fit fails, by itself or by the end of its line. -/
theorem failure_documents_iff (one other : Json) (room : Nat) :
    let length := (bytes (document one)).length
    let total := length + (bytes (document other)).length
    ((failures (document one ++ document other))[room]? = some .serialise ↔
        room + 1 < length ∨ length ≤ room ∧ room + 1 < total) ∧
      ((failures (document one ++ document other))[room]? = some .write ↔
        room + 1 = length ∨ room + 1 = total) := by
  intro length total
  have ends : 0 < (bytes (document other)).length := by simp [bytes_document]
  rw [failures_append, List.getElem?_append, length_failures]
  split
  · rw [failure_document_eq_serialise_iff, failure_document_eq_write_iff]
    omega
  · rw [failure_document_eq_serialise_iff, failure_document_eq_write_iff]
    omega

theorem Result.failure_human (result : Result) :
    ∀ piece ∈ result.pieces .human, piece.failure = .write := by
  intro piece member
  cases result with
  | reply values =>
      simp only [pieces, Output.reply, line] at member
      split at member
      · cases member
      · rw [List.mem_singleton.mp member]
  | arrival met =>
      simp only [pieces, Output.arrival, line] at member
      split at member
      · rw [List.mem_singleton.mp member]
      · rw [List.mem_singleton.mp member]
  | api interface =>
      rw [List.mem_singleton.mp member]

theorem call_failure_human (values : List Value) (met : Arrival) :
    ∀ piece ∈ Output.reply .human values ++ Output.arrival .human met,
      piece.failure = .write := by
  intro piece member
  rcases List.mem_append.mp member with member | member
  · exact (Result.reply values).failure_human piece member
  · exact (Result.arrival met).failure_human piece member

theorem Result.exists_document (result : Result) :
    ∃ json, result.pieces .json = document json := by
  cases result with
  | reply values => exact ⟨_, rfl⟩
  | arrival met => exact ⟨_, rfl⟩
  | api interface => exact ⟨_, rfl⟩

end Failures

section Limited

variable {pieces : List OutputPiece} {room : Nat}

theorem accepted_limited :
    ((Sink.empty (some room)).write pieces).2.accepted = (bytes pieces).take room := by
  rw [Sink.empty, Sink.write_limited]
  rfl

theorem accepted_unlimited : ((Sink.empty none).write pieces).2.accepted = bytes pieces := by
  rw [Sink.empty, Sink.write_unlimited]
  rfl

theorem limited_eq_ok_iff :
    ((Sink.empty (some room)).write pieces).1 = .ok () ↔ (bytes pieces).length ≤ room := by
  rw [Sink.empty, Sink.write_limited, ← length_failures, ← List.getElem?_eq_none_iff]
  cases (failures pieces)[room]? <;> simp

theorem limited_eq_error_iff {error : OutputError} :
    ((Sink.empty (some room)).write pieces).1 = .error error ↔
      (failures pieces)[room]? = some error := by
  rw [Sink.empty, Sink.write_limited]
  cases (failures pieces)[room]? <;> simp

/-- Where the first pieces do not fit, the output is cut off within them, and fails. -/
theorem cut_within_first {first second : List OutputPiece} (outside : room < (bytes first).length) :
    (bytes (first ++ second)).take room = (bytes first).take room ∧
      ∃ error, (failures (first ++ second))[room]? = some error := by
  constructor
  · rw [bytes_append, List.take_append_of_le_length (Nat.le_of_lt outside)]
  · have inside : room < (failures first).length := by
      rwa [length_failures]
    rw [failures_append, List.getElem?_append_left inside, List.getElem?_eq_getElem inside]
    exact ⟨_, rfl⟩

theorem failure_of_alike {failure : OutputError}
    (alike : ∀ piece ∈ pieces, piece.failure = failure) :
    (failures pieces)[room]? = some failure ↔ room < (bytes pieces).length := by
  rw [failures_of_alike alike, List.getElem?_replicate]
  split <;> simp [*]

end Limited

end Output

namespace Ending

variable {written : Except OutputError Unit × Sink}

theorem ofWritten_snd : (ofWritten written).2 = written.2 := by
  obtain ⟨outcome, output⟩ := written
  cases outcome <;> rfl

theorem ofWritten_eq_succeeded_iff : (ofWritten written).1 = .succeeded ↔ written.1 = .ok () := by
  obtain ⟨outcome, output⟩ := written
  cases outcome <;> simp [ofWritten]

theorem ofWritten_eq_failed_iff {error : OutputError} :
    (ofWritten written).1 = .failed (.output error) ↔ written.1 = .error error := by
  obtain ⟨outcome, output⟩ := written
  cases outcome <;> simp [ofWritten]

end Ending

namespace Run

theorem present_arrived (format : OutputFormat) (reply : List Value) (arrival : Arrival)
    (output : Sink) :
    present format ⟨reply, some (.ok arrival)⟩ output =
      Ending.ofWritten
        (output.write (Output.reply format reply ++ Output.arrival format arrival)) := by
  rw [present, Sink.write_append]
  rcases output.write (Output.reply format reply) with ⟨outcome, next⟩
  cases outcome <;> rfl

section Arrived

variable {σ : Type} {world : World σ} {arguments : List RawText} {format : OutputFormat}
  {name : String} {tokens : List String} {signals : SignalSet} {limit : WaitLimit}
  {session : Session σ} {connection : Connection σ} {reply : List Value} {arrival : Arrival}

/-- A call with a signal writes the reply and the arrival one after the other. -/
theorem ofArguments_of_arrived
    (reaches : Reaches world arguments format (.method name tokens signals limit) session
      connection)
    (gave : (session.invokeAndWait name tokens signals limit connection).1 =
      .done ⟨reply, some (.ok arrival)⟩) (output : Sink) :
    let written := output.write (Output.reply format reply ++ Output.arrival format arrival)
    (ofArguments world arguments output).ending = (Ending.ofWritten written).1 ∧
      (ofArguments world arguments output).output = written.2 := by
  intro written
  obtain ⟨typed, settings, first, rfl, connects, resolved⟩ := reaches
  obtain ⟨ended, shown⟩ := served_of_connects output connects
  rw [ended, shown, serve, resolved]
  dsimp only [perform]
  rcases answered : session.invokeAndWait name tokens signals limit connection with
    ⟨outcome, after⟩
  obtain rfl : outcome = _ := (congrArg Prod.fst answered).symm.trans gave
  rw [finish, present_arrived]
  exact ⟨rfl, Ending.ofWritten_snd⟩

theorem accepted_of_arrived
    (reaches : Reaches world arguments format (.method name tokens signals limit) session
      connection)
    (gave : (session.invokeAndWait name tokens signals limit connection).1 =
      .done ⟨reply, some (.ok arrival)⟩) :
    (ofArguments world arguments (.empty none)).output.accepted =
      Output.bytes (Output.reply format reply) ++ Output.bytes (Output.arrival format arrival) := by
  rw [(ofArguments_of_arrived reaches gave _).2, Output.accepted_unlimited, Output.bytes_append]

theorem limited_of_arrived
    (reaches : Reaches world arguments format (.method name tokens signals limit) session
      connection)
    (gave : (session.invokeAndWait name tokens signals limit connection).1 =
      .done ⟨reply, some (.ok arrival)⟩) (room : Nat) :
    let pieces := Output.reply format reply ++ Output.arrival format arrival
    let run := ofArguments world arguments (.empty (some room))
    run.output.accepted = (Output.bytes pieces).take room ∧
      (run.ending = .succeeded ↔ (Output.bytes pieces).length ≤ room) ∧
      ∀ error, run.ending = .failed (.output error) ↔
        (Output.failures pieces)[room]? = some error := by
  intro pieces run
  obtain ⟨ended, output⟩ := ofArguments_of_arrived reaches gave (.empty (some room))
  refine ⟨?_, ?_, fun error => ?_⟩
  · rw [show run.output = _ from output, Output.accepted_limited]
  · rw [show run.ending = _ from ended, Ending.ofWritten_eq_succeeded_iff,
      Output.limited_eq_ok_iff]
  · rw [show run.ending = _ from ended, Ending.ofWritten_eq_failed_iff,
      Output.limited_eq_error_iff]

end Arrived

end Run

namespace Output

/-- A result that does not fit on the output is cut off where the room ends, and this is always
reported: a text fails as a whole, a document fails by itself or only by the end of its line.
It makes no difference how the result is divided into writes.  A call with a signal shows the
reply and the arrival as one text would be shown; once the reply has failed, nothing else is
written. -/
theorem limited_output_is_cut_off {result : Result} {format : OutputFormat}
    {writes : List OutputPiece} (cut : Cut (result.pieces format) writes) (room : Nat) :
    let full := ((Sink.empty none).write (result.pieces format)).2.accepted
    let limited := (Sink.empty (some room)).write writes
    (∀ sink : Sink, sink.write writes = sink.write (result.pieces format)) ∧
      limited.2.accepted = full.take room ∧
      (limited.1 = .ok () ↔ full.length ≤ room) ∧
      (format = .human → (limited.1 = .error .write ↔ room < full.length)) ∧
      (format = .json →
        (limited.1 = .error .serialise ↔ room + 1 < full.length) ∧
          (limited.1 = .error .write ↔ room + 1 = full.length)) ∧
      ∀ {σ : Type} (world : World σ) (arguments : List RawText) (name : String)
        (tokens : List String) (signals : SignalSet) (limit : WaitLimit) (session : Session σ)
        (connection : Connection σ) (reply : List Value) (arrival : Arrival),
        Run.Reaches world arguments format (.method name tokens signals limit) session
          connection →
        (session.invokeAndWait name tokens signals limit connection).1 =
          .done ⟨reply, some (.ok arrival)⟩ →
        let shown := (Run.ofArguments world arguments (.empty none)).output.accepted
        let first := bytes (Output.reply format reply)
        let run := Run.ofArguments world arguments (.empty (some room))
        shown = first ++ bytes (Output.arrival format arrival) ∧
          run.output.accepted = shown.take room ∧
          (run.ending = .succeeded ↔ shown.length ≤ room) ∧
          (room < first.length → run.output.accepted = first.take room ∧
            ∃ error, run.ending = .failed (.output error)) ∧
          (format = .human → (run.ending = .failed (.output .write) ↔ room < shown.length)) ∧
          (format = .json →
            (run.ending = .failed (.output .serialise) ↔
              room + 1 < first.length ∨ first.length ≤ room ∧ room + 1 < shown.length) ∧
            (run.ending = .failed (.output .write) ↔
              room + 1 = first.length ∨ room + 1 = shown.length)) := by
  intro full limited
  have whole : full = bytes (result.pieces format) := accepted_unlimited
  have same : limited = (Sink.empty (some room)).write (result.pieces format) :=
    Sink.write_cut cut _
  refine ⟨Sink.write_cut cut, ?_, ?_, ?_, ?_, ?_⟩
  · rw [same, whole, accepted_limited]
  · rw [same, whole, limited_eq_ok_iff]
  · rintro rfl
    rw [same, whole, limited_eq_error_iff, failure_of_alike result.failure_human]
  · rintro rfl
    obtain ⟨json, written⟩ := result.exists_document
    rw [same, whole, limited_eq_error_iff, limited_eq_error_iff, written]
    exact ⟨failure_document_eq_serialise_iff json room, failure_document_eq_write_iff json room⟩
  · intro σ world arguments name tokens signals limit session connection reply arrival reaches
      gave shown first run
    have shown_eq : shown = first ++ bytes (Output.arrival format arrival) :=
      Run.accepted_of_arrived reaches gave
    obtain ⟨accepted, succeeded, failed⟩ := Run.limited_of_arrived reaches gave room
    refine ⟨shown_eq, ?_, ?_, ?_, ?_, ?_⟩
    · rw [accepted, bytes_append, shown_eq]
    · rw [succeeded, bytes_append, shown_eq]
    · intro outside
      obtain ⟨within, error, fails⟩ := cut_within_first outside
      exact ⟨accepted.trans within, error, (failed error).mpr fails⟩
    · rintro rfl
      rw [failed, failure_of_alike (call_failure_human reply arrival), bytes_append, shown_eq]
    · rintro rfl
      rw [failed, failed, shown_eq, List.length_append]
      exact failure_documents_iff _ _ room

section Versions

def versionReply : List Value :=
  [.string "0.2\n"]

/-- The reply in six writes: a quotation mark, an escape and a bracket stand on their own. -/
def versionWrites : List OutputPiece :=
  ["[", "\"", "0.2", "\\n", "\"", "]"].map (⟨·, .serialise⟩) ++ [⟨"\n", .write⟩]

theorem cut_version : Cut ((Result.reply versionReply).pieces .json) versionWrites := by
  have newline : Cut [⟨"\n", .write⟩] [⟨"\n", .write⟩] :=
    @Cut.cons _ [⟨"\n", .write⟩] _ _ (by decide +kernel) (by simp) .nil
  exact .cons (by decide +kernel) (by simp) newline

def versionWorld : World ScriptedBus :=
  .rehearsed (fun _ => .ok .default)
    { Script.publishing [Interface.nickel] with
      replies := [("ndbVersion", versionReply)]
      emissions := [("ndbVersion", [⟨"com.github.shermp.nickeldbus.pfmDoneProcessing", []⟩])] }
    none

def versionRequest : TypedRequest :=
  ⟨.method "ndbVersion" [] ["pfmDoneProcessing"] 0, .json⟩

def versionLine : List RawText :=
  versionRequest.line (.ofString "ndb-cli")

def versionSession : Session ScriptedBus :=
  ⟨versionWorld.bus, Target.nickel, Interface.nickel, versionWorld.scheduler⟩

theorem version_arrives :
    ∃ connection,
      Run.Reaches versionWorld versionLine .json
        (.method "ndbVersion" [] (.ofList ["pfmDoneProcessing"]) .never) versionSession
        connection ∧
      (versionSession.invokeAndWait "ndbVersion" [] (.ofList ["pfmDoneProcessing"]) .never
        connection).1 = .done ⟨versionReply, some (.ok ⟨"pfmDoneProcessing", []⟩)⟩ := by
  have read : Run.asked versionLine = .ok versionRequest :=
    Run.asked_line _ (show 0 < Nat.pow 2 64 by decide)
  refine ⟨_, ⟨_, .default, _, rfl, ⟨⟨read, rfl, _, rfl, rfl⟩, rfl, rfl, _, rfl, rfl⟩, rfl⟩, ?_⟩
  rfl

theorem version_is_cut_off :
    Cut ((Result.reply versionReply).pieces .json) versionWrites ∧
      ((Sink.empty (some 3)).write versionWrites).1 = .error .serialise ∧
      ((Sink.empty (some 9)).write versionWrites).1 = .error .write ∧
      (Run.ofArguments versionWorld versionLine (.empty (some 12))).ending =
        .failed (.output .serialise) := by
  obtain ⟨-, -, -, -, inside, -⟩ := limited_output_is_cut_off cut_version 3
  obtain ⟨-, -, -, -, atEnd, -⟩ := limited_output_is_cut_off cut_version 9
  obtain ⟨-, -, -, -, -, calls⟩ := limited_output_is_cut_off cut_version 12
  obtain ⟨connection, reaches, arrives⟩ := version_arrives
  obtain ⟨shown, -, -, -, -, fails⟩ := calls _ _ _ _ _ _ _ _ _ _ reaches arrives
  refine ⟨cut_version, ?_, ?_, ?_⟩
  · rw [(inside rfl).1, accepted_unlimited]
    decide +kernel
  · rw [(atEnd rfl).2, accepted_unlimited]
    decide +kernel
  · rw [(fails rfl).1, shown]
    right
    decide +kernel

end Versions

end Output

end BusBridge
