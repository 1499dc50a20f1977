import BusBridge.Interface.Nickel
import BusBridge.Proofs.Session
import BusBridge.ScriptedBus
import BusBridge.Waiting.Timely

/-!
# Calling while waiting

A method is called and, at the same time, a wait for a signal is running.  What comes
out is told from the reply to the call and from what the wait gives when it is alone;
which of the two is looked at first, and in which order their events come up, does not
matter.  The call is sent once in any case.
-/

namespace BusBridge

namespace Outcome

/-- What a call gives beside a wait with this outcome: its own failure, or its reply
together with the end of the wait, and nothing as long as one of them is missing. -/
def beside (method : String) : Option Reply → Outcome Arrival → Outcome CallReport
  | some (.error reason), _ => .failed (.remoteCallFailed method reason)
  | some (.ok reply), .done arrival => .done ⟨reply, some (.ok arrival)⟩
  | some (.ok reply), .failed error => .done ⟨reply, some (.error error)⟩
  | _, _ => .pending

end Outcome

namespace Race

/-- In these turns, and in what the wait met before them, the call has failed, or the
call has returned and the wait has ended. -/
def Decided (wait : Wait) (early : List WaitEvent) (turns : List (Timed Turn)) : Prop :=
  (∃ reason, (Turn.returned turns).head? = some (.error reason)) ∨
    (∃ reply, (Turn.returned turns).head? = some (.ok reply)) ∧
      ∃ result, wait.settle (early ++ Turn.met turns) = some result

variable {wait : Wait} {early : List WaitEvent} {turns : List (Timed Turn)}

theorem decided_iff :
    Decided wait early turns ↔
      ∃ result, (standing (Turn.returned turns).head?
        (wait.settle (early ++ Turn.met turns))).result? = some result := by
  rw [Decided]
  rcases (Turn.returned turns).head? with _ | (_ | _) <;>
    cases wait.settle (early ++ Turn.met turns) <;> simp [standing, result?]

theorem not_decided_iff :
    ¬ Decided wait early turns ↔
      (standing (Turn.returned turns).head?
        (wait.settle (early ++ Turn.met turns))).result? = none := by
  rw [decided_iff, ← Option.isSome_iff_exists, Option.not_isSome_iff_eq_none]

/-- A race is over after a number of turns exactly if they decide it. -/
theorem isSome_follow_upTo_iff {method : String} {events : List WaitEvent}
    {reply? : Option Reply} (schedule : Schedule events reply?) (count : Nat) :
    (follow method wait (schedule.upTo count)).2.1.isSome = true ↔
      Decided wait schedule.early (schedule.turns.take count) := by
  have ending : (follow method wait (schedule.upTo count)).2.1.map Timed.item = _ :=
    follow_ending (schedule.upTo count)
  rw [decided_iff, ← Option.isSome_iff_exists, ← ending, Option.isSome_map]

end Race

namespace Session

variable {σ : Type} (session : Session σ)

/-- The call and the wait beside it come out as the reply and the wait alone do. -/
theorem callArmed_eq_beside (call : MethodCall) (armed : ArmedWait) (limit : WaitLimit)
    (connection : Connection σ) :
    (session.callArmed call armed limit connection).1 =
      (session.waitArmed armed limit
        { connection with bus := (session.answer call connection).2 }).1.beside call.method
          ((session.answer call connection).1.map Timed.item) := by
  rw [callArmed_fst, Race.follow_ending, waitArmed_fst]
  rcases (session.answer call connection).1.map Timed.item with _ | (_ | _) <;>
    rcases (armed.within limit).settle
      ((session.expected armed limit (session.answer call connection).2).map Timed.item) with
        _ | (_ | _) <;> rfl

theorem invokeAndWait_eq_callArmed {method : String} {tokens : List String}
    {signals : SignalSet} (limit : WaitLimit) {connection ready : Connection σ}
    {prepared : PreparedCall} {armed : ArmedWait}
    (asked : signals.isEmpty = false)
    (chosen : session.prepare method tokens = .ok prepared)
    (arms : session.arm signals (connection.report
      (Invocation.prepareEvents session.interface method tokens)) = (.ok armed, ready)) :
    session.invokeAndWait method tokens signals limit connection =
      session.callArmed (methodCall prepared) armed limit ready := by
  rw [invokeAndWait_eq_armThen connection limit asked chosen, armThen, arms]

/-- Once the method is chosen and the wait is armed, the outcome is the reply beside
what the wait gives alone, whatever the scheduler does; the call is sent once, and the
operation ends with the first turn that decides the race. -/
theorem invokeAndWait_under_every_schedule (method : String) (tokens : List String)
    (signals : SignalSet) (limit : WaitLimit) (connection : Connection σ)
    {prepared : PreparedCall} {armed : ArmedWait} {ready : Connection σ}
    (asked : signals.isEmpty = false)
    (chosen : session.prepare method tokens = .ok prepared)
    (arms : session.arm signals (connection.report
      (Invocation.prepareEvents session.interface method tokens)) = (.ok armed, ready)) :
    let call := methodCall prepared
    let wait := armed.within limit
    let schedule := session.schedule call armed limit ready
    let answer := session.answer call ready
    let alone := session.waitArmed armed limit { ready with bus := answer.2 }
    let final := session.invokeAndWait method tokens signals limit connection
    final.1 = alone.1.beside call.method (answer.1.map Timed.item) ∧
      (∀ scheduler, ({ session with scheduler }.invokeAndWait method tokens signals limit
        connection).1 = final.1) ∧
      final.2.requests = ready.requests ++ [.call session.target call] ∧
      (∀ count, (Race.follow call.method wait (schedule.upTo count)).2.1.isSome = true ↔
        Race.Decided wait schedule.early (schedule.turns.take count)) ∧
      (∀ turns turn further, schedule.turns = turns ++ turn :: further →
        ¬ Race.Decided wait schedule.early turns →
        Race.Decided wait schedule.early (turns ++ [turn]) →
          final.2.clock = ready.clock + turn.after) := by
  have whole := session.invokeAndWait_eq_callArmed limit asked chosen arms
  refine ⟨?_, ?_, ?_, ?_, ?_⟩
  · rw [whole]
    exact session.callArmed_eq_beside _ _ _ _
  · intro scheduler
    have other := invokeAndWait_eq_callArmed { session with scheduler } limit
      asked chosen arms
    rw [whole, other, callArmed_eq_beside, callArmed_eq_beside]
    rfl
  · rw [whole]
    exact (session.reached_callArmed _ _ _ _).requests_eq
  · intro count
    exact Race.isSome_follow_upTo_iff _ count
  · intro turns turn further split unfinished decided
    obtain ⟨result, finished⟩ := Race.decided_iff.mp decided
    rw [whole]
    exact session.clock_callArmed _ _ _ _
      (Race.follow_ends_with_turn split (Race.not_decided_iff.mp unfinished) finished)

end Session

section Rescan

/-- A remote object that tells of a scan when it is listened to, and takes five seconds to reply. -/
def rescanScript : Script :=
  { Script.publishing [Interface.nickel] with
    signals := [⟨0, ⟨"com.github.shermp.nickeldbus.pfmDoneProcessing", []⟩⟩]
    replyDelay := 5000 }

/-- A session in which a wait is looked at before the call beside it is sent. -/
def rescanSession : Session ScriptedBus :=
  ⟨ScriptedBus.bus, Target.nickel, Interface.nickel, .waitFirst⟩

/-- The wait has ended when the call is sent, which is in time, and the reply still comes. -/
theorem rescan_waits_first :
    Scheduler.waitFirst.Timely ∧
    (rescanSession.invokeAndWait "pfmRescanBooks" [] (.ofList ["pfmDoneProcessing"])
        (.ofSeconds 3) (.start (.ofScript rescanScript))).1 =
      .done ⟨[], some (.ok ⟨"pfmDoneProcessing", []⟩)⟩ ∧
    (rescanSession.invokeAndWait "pfmRescanBooks" [] (.ofList ["pfmDoneProcessing"])
        (.ofSeconds 3) (.start (.ofScript rescanScript))).2.requests =
      [.subscribe Target.nickel true, .call Target.nickel ⟨"pfmRescanBooks", []⟩] := by
  have chosen : rescanSession.prepare "pfmRescanBooks" [] =
      .ok ⟨⟨"pfmRescanBooks", []⟩, []⟩ := by rfl
  have arms : rescanSession.arm (.ofList ["pfmDoneProcessing"]) (.start (.ofScript rescanScript)) =
      (.ok ⟨0, .ofList ["pfmDoneProcessing"]⟩,
        (rescanSession.arm (.ofList ["pfmDoneProcessing"])
          (.start (.ofScript rescanScript))).2) := by rfl
  obtain ⟨joined, -, requested, -, -⟩ :=
    rescanSession.invokeAndWait_under_every_schedule "pfmRescanBooks" []
      (.ofList ["pfmDoneProcessing"]) (.ofSeconds 3) (.start (.ofScript rescanScript))
      (by rfl) chosen arms
  exact ⟨Scheduler.timely_waitFirst, joined.trans (by rfl), requested.trans (by rfl)⟩

end Rescan

end BusBridge
