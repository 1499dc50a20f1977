import BusBridge.Proofs.CallAndWait
import BusBridge.Proofs.RaceTime
import BusBridge.Proofs.Readings
import BusBridge.Proofs.TimedWait

/-!
# When a call beside a wait comes back

On a scripted bus three clocks run while a method is called beside a wait: the delay of
the reply, the delays of the scripted signals, and the limit of the wait.  The operation
comes back at the later of the moments at which the call and the wait alone would; the
failure of the call alone does not wait for anything.
-/

namespace BusBridge

namespace Mailbox

theorem le_after_streamFrom (mailbox : Mailbox) (now : Nat) (signals : List (Timed Notification)) :
    ∀ event ∈ mailbox.streamFrom now signals, now ≤ event.after := by
  induction signals generalizing now with
  | nil =>
      intro event member
      rw [streamFrom, rest] at member
      cases closing : mailbox.closing with
      | true =>
          rw [closing, if_pos rfl, List.mem_singleton] at member
          exact Nat.le_of_eq (congrArg Timed.after member.symm)
      | false =>
          rw [closing, if_neg Bool.false_ne_true] at member
          obtain ⟨notification, -, rfl⟩ := List.mem_map.mp member
          exact Nat.le_refl now
  | cons first others ih =>
      intro event member
      rw [streamFrom, List.mem_cons] at member
      rcases member with rfl | member
      · exact Nat.le_add_right now first.after
      · have later := ih (now + first.after) event member
        omega

/-- A mailbox is read in the order of time. -/
theorem rising_stream (mailbox : Mailbox) : Timed.Rising mailbox.stream := by
  have from_now (now : Nat) (signals : List (Timed Notification)) :
      Timed.Rising (mailbox.streamFrom now signals) := by
    induction signals generalizing now with
    | nil =>
        rw [streamFrom, rest]
        cases mailbox.closing with
        | true => exact List.pairwise_singleton _ _
        | false => exact List.pairwise_map.mpr (List.pairwise_of_forall fun _ _ => Nat.le_refl now)
    | cons first others ih =>
        rw [streamFrom]
        exact List.pairwise_cons.mpr
          ⟨mailbox.le_after_streamFrom (now + first.after) others, ih (now + first.after)⟩
  exact from_now 0 mailbox.scripted

end Mailbox

namespace Wait

variable {wait : Wait}

theorem after_le_of_mem_takeWhile {limit : Nat} {stream : List (Timed StreamEvent)}
    {event : Timed StreamEvent}
    (member : event ∈ stream.takeWhile fun timed => timed.after ≤ limit) : event.after ≤ limit :=
  of_decide_eq_true (List.all_eq_true.mp List.all_takeWhile event member)

theorem rising_events {stream : List (Timed StreamEvent)} (rising : Timed.Rising stream) :
    Timed.Rising (wait.events stream) := by
  rw [events]
  cases wait.limit.milliseconds? with
  | none => exact Timed.rising_map.mpr rising
  | some limit =>
      refine List.pairwise_append.mpr ⟨Timed.rising_map.mpr
        (rising.sublist (List.takeWhile_sublist _)), List.pairwise_singleton _ _, ?_⟩
      intro timed member expired last
      obtain ⟨event, found, rfl⟩ := List.mem_map.mp member
      obtain rfl := List.mem_singleton.mp last
      exact after_le_of_mem_takeWhile found

/-- A wait that nothing ends before its limit ends with the limit. -/
theorem run_of_silent {limit : Nat} (limited : wait.limit.milliseconds? = some limit)
    {stream : List (Timed StreamEvent)}
    (silent : ∀ event ∈ stream, event.after ≤ limit → wait.react (.stream event.item) = none) :
    wait.run stream = some ⟨limit, .error (.timeout wait.limit)⟩ := by
  have passed : wait.settleTimed
      ((stream.takeWhile fun timed => timed.after ≤ limit).map (Timed.map .stream)) = none := by
    rw [settleTimed, List.findSome?_eq_none_iff]
    intro timed member
    obtain ⟨event, found, rfl⟩ := List.mem_map.mp member
    have reaction := silent event ((List.takeWhile_sublist _).subset found)
      (after_le_of_mem_takeWhile found)
    simp [Timed.map, reaction]
  rw [run, events, limited]
  change wait.settleTimed (_ ++ [⟨limit, .expired⟩]) = _
  rw [settleTimed_append, passed]
  rfl

theorem run_ne_none {limit : Nat} (limited : wait.limit.milliseconds? = some limit)
    (stream : List (Timed StreamEvent)) : wait.run stream ≠ none := by
  rw [run, events, limited, settleTimed_append]
  intro endless
  have expires := (Option.or_eq_none_iff.mp endless).2
  cases expires

/-- A wait with a limit has ended when the limit is reached. -/
theorem after_le_of_run_eq_some {limit : Nat} (limited : wait.limit.milliseconds? = some limit)
    {stream : List (Timed StreamEvent)} {ending : Timed WaitResult}
    (ends : wait.run stream = some ending) : ending.after ≤ limit := by
  rw [run, settleTimed] at ends
  obtain ⟨timed, member, reaction⟩ := List.exists_of_findSome?_eq_some ends
  obtain ⟨result, -, rfl⟩ := Option.map_eq_some_iff.mp reaction
  rw [events, limited] at member
  rcases List.mem_append.mp member with read | expired
  · obtain ⟨event, found, rfl⟩ := List.mem_map.mp read
    exact after_le_of_mem_takeWhile found
  · obtain rfl := List.mem_singleton.mp expired
    exact Nat.le_refl limit

/-- What was emitted is there at once when there is no script before it. -/
theorem run_of_emitted {live : List Notification} {first : Notification}
    (found : live.find? wait.wants = some first) :
    wait.run (Mailbox.stream ⟨[], live, false⟩) = some ⟨0, arrival first⟩ := by
  have forecast : wait.run (Mailbox.stream ⟨[], live, false⟩) =
      wait.forecastAfterScript ⟨[], live, false⟩ 0 := wait.run_streamAt_nil wait.inTime_zero
  rw [forecast, forecastAfterScript, found]
  rfl

end Wait

namespace ScriptedBus

variable {bus : ScriptedBus}

theorem mailbox?_foldl_emit (kept : bus.Kept) (signals : List Notification) (subscription : Nat) :
    (signals.foldl emit bus).mailbox? subscription =
      (bus.mailbox? subscription).map fun mailbox =>
        { mailbox with live := mailbox.live ++ signals } := by
  induction signals generalizing bus with
  | nil => cases found : bus.mailbox? subscription <;> simp [found]
  | cons first rest ih =>
      rw [List.foldl_cons, ih (kept.emit first), mailbox?_emit kept, Option.map_map]
      cases bus.mailbox? subscription <;> simp [Mailbox.deliver]

/-- The signals of a call go into every mailbox. -/
theorem mailbox?_call (kept : bus.Kept) (call : MethodCall) (subscription : Nat) :
    (bus.call call).2.mailbox? subscription =
      (bus.mailbox? subscription).map fun mailbox =>
        { mailbox with live := mailbox.live ++ bus.script.emitted call.method } :=
  mailbox?_foldl_emit (kept.record call) _ subscription

/-- A new subscription has the script and what the next call emits. -/
theorem mailbox?_call_subscribe (kept : bus.Kept) (accepted : bus.script.subscriptionError = none)
    (call : MethodCall) :
    (bus.subscribe.2.call call).2.mailbox? bus.subscriptions =
      some ⟨bus.script.signals, bus.script.emitted call.method, bus.script.closing⟩ := by
  have made : bus.subscribe.1 = .ok bus.subscriptions := by rw [subscribe, accepted]
  have script : bus.subscribe.2.script = bus.script := by rw [subscribe, accepted]
  obtain ⟨-, fresh⟩ := mailbox?_subscribe_self kept made
  rw [mailbox?_call kept.subscribe, fresh, script]
  rfl

end ScriptedBus

namespace Outcome

variable {α : Type}

theorem ofExcept_injective : Function.Injective (ofExcept (α := α)) := by
  intro first second same
  cases first <;> cases second <;> cases same <;> rfl

end Outcome

namespace Session

variable {σ : Type} (session : Session σ)

section Clocks

variable (connection : Connection σ)

theorem waitArmed_of_settleTimed {armed : ArmedWait} {limit : WaitLimit}
    {ending : Timed WaitResult}
    (ends : (armed.within limit).settleTimed (session.expected armed limit connection.bus) =
      some ending) :
    (session.waitArmed armed limit connection).1 = .ofExcept ending.item ∧
      (session.waitArmed armed limit connection).2.clock = connection.clock + ending.after := by
  rw [waitArmed, ends]
  exact ⟨rfl, rfl⟩

theorem waitArmed_of_endless {armed : ArmedWait} {limit : WaitLimit}
    (endless : (armed.within limit).settleTimed (session.expected armed limit connection.bus) =
      none) : (session.waitArmed armed limit connection).1 = .pending := by
  rw [waitArmed, endless]

end Clocks

section Timely

variable {session} (timely : session.scheduler.Timely) (call : MethodCall) (armed : ArmedWait)
  (limit : WaitLimit) (connection : Connection σ)
  (rising : Timed.Rising (session.expected armed limit (session.answer call connection).2))

include timely rising

/-- With a scheduler that keeps to the time, the moments of the reply and of the end of the
wait tell how and when the operation is over. -/
theorem callArmed_of_timely :
    let joined? := Race.joint (session.answer call connection).1
      ((armed.within limit).settleTimed
        (session.expected armed limit (session.answer call connection).2))
    (session.callArmed call armed limit connection).1 =
        .ofOption (joined?.map fun ending => raced call.method ending.item) ∧
      ∀ ending ∈ joined?, (session.callArmed call armed limit connection).2.clock =
        connection.clock + ending.after := by
  intro joined?
  have followed : (Race.follow call.method (armed.within limit)
      (session.schedule call armed limit connection)).2.1 = joined? :=
    Race.follow_of_timely (timely _ _ rising)
  refine ⟨?_, fun ending joined => ?_⟩
  · rw [callArmed_fst, followed, Option.map_map]
    rfl
  · exact session.clock_callArmed call armed limit connection (followed.trans joined)

end Timely

section Scripted

variable {session : Session ScriptedBus} (scripted : session.bus = ScriptedBus.bus)
  {connection : Connection ScriptedBus}

include scripted

theorem arm_of_script {signals : SignalSet} (known : session.validate signals = .ok ())
    (accepted : connection.bus.script.subscriptionError = none) :
    (session.arm signals connection).1 = .ok ⟨connection.bus.subscriptions, signals⟩ ∧
      (session.arm signals connection).2.bus = connection.bus.subscribe.2 := by
  have made : (session.bus.subscribe session.target connection.bus).1 =
      .ok connection.bus.subscriptions := by
    rw [scripted]
    change connection.bus.subscribe.1 = _
    rw [ScriptedBus.subscribe, accepted]
  obtain ⟨arms, reached⟩ := arm_of_accepted connection known made
  rw [scripted] at reached
  exact ⟨arms, reached.bus_eq⟩

theorem answer_of_script (call : MethodCall) :
    session.answer call connection =
      (some ⟨connection.bus.script.replyDelay, connection.bus.script.reply call.method⟩,
        (connection.bus.call call).2) := by
  rw [answer, scripted]
  rfl

theorem settleTimed_expected {armed : ArmedWait} {mailbox : Mailbox} {bus : ScriptedBus}
    (found : bus.mailbox? armed.subscription = some mailbox) (limit : WaitLimit) :
    (armed.within limit).settleTimed (session.expected armed limit bus) =
      (armed.within limit).run mailbox.stream := by
  rw [expected, scripted]
  change (armed.within limit).settleTimed
    ((armed.within limit).events (bus.stream armed.subscription)) = _
  rw [ScriptedBus.stream, found]
  rfl

theorem rising_expected (armed : ArmedWait) (limit : WaitLimit) (bus : ScriptedBus) :
    Timed.Rising (session.expected armed limit bus) := by
  rw [expected, scripted]
  refine Wait.rising_events ?_
  change Timed.Rising (bus.stream armed.subscription)
  rw [ScriptedBus.stream]
  cases bus.mailbox? armed.subscription with
  | none => exact List.Pairwise.nil
  | some mailbox => exact mailbox.rising_stream

/-- The operation is over as the reply and the wait on a mailbox have it that holds the
script and what the call emits. -/
theorem invokeAndWait_of_script (timely : session.scheduler.Timely)
    (kept : connection.bus.Kept) {method : String} {tokens : List String} {signals : SignalSet}
    (limit : WaitLimit) {prepared : PreparedCall} (asked : signals.isEmpty = false)
    (chosen : session.prepare method tokens = .ok prepared)
    (known : session.validate signals = .ok ())
    (accepted : connection.bus.script.subscriptionError = none) :
    let script := connection.bus.script
    let call := methodCall prepared
    let mailbox : Mailbox := ⟨script.signals, script.emitted call.method, script.closing⟩
    let final := session.invokeAndWait method tokens signals limit connection
    let joined? := Race.joint (some ⟨script.replyDelay, script.reply call.method⟩)
      ((Wait.mk signals limit).run mailbox.stream)
    final.1 = .ofOption (joined?.map fun ending => raced call.method ending.item) ∧
      ∀ ending ∈ joined?, final.2.clock = connection.clock + ending.after := by
  intro script call mailbox final joined?
  let armed : ArmedWait := ⟨connection.bus.subscriptions, signals⟩
  let opened := connection.report (Invocation.prepareEvents session.interface method tokens)
  let ready := (session.arm signals opened).2
  obtain ⟨arms, left⟩ : (session.arm signals opened).1 = .ok armed ∧
      ready.bus = connection.bus.subscribe.2 := arm_of_script scripted known accepted
  have clock : ready.clock = connection.clock := clock_arm opened signals
  have whole : final = session.callArmed call armed limit ready :=
    session.invokeAndWait_eq_callArmed limit asked chosen (Prod.ext arms rfl)
  have answers : session.answer call ready =
      (some ⟨script.replyDelay, script.reply call.method⟩,
        (connection.bus.subscribe.2.call call).2) := by
    rw [answer_of_script scripted, left, (ScriptedBus.leads_subscribe kept).script]
  have ends : (armed.within limit).settleTimed
      (session.expected armed limit (session.answer call ready).2) =
        (armed.within limit).run mailbox.stream := by
    rw [answers]
    exact settleTimed_expected scripted
      (ScriptedBus.mailbox?_call_subscribe kept accepted call) limit
  have joined := callArmed_of_timely timely call armed limit ready
    (rising_expected scripted armed limit _)
  rw [ends, answers, ← whole, clock] at joined
  exact joined

end Scripted

/-- A call beside a wait on a scripted bus, whatever was done there before.  The wait alone
would have the script and what the call emits before it.  A call that fails comes back
after the delay of the reply; one that succeeds comes back with its reply at the later of
the moments at which the reply comes and the wait alone ends, and never if the wait has no
end.  So a shorter limit does not cost the reply, and no signal of the call is missed. -/
theorem invokeAndWait_joins_call_and_wait (session : Session ScriptedBus)
    (scripted : session.bus = ScriptedBus.bus) (timely : session.scheduler.Timely)
    (script : Script) (history : List BusOperation) (connection : Connection ScriptedBus)
    (reached : connection.bus = (ScriptedBus.ofScript script).introspect.2.afterAll history)
    (method : String) (tokens : List String) (signals : SignalSet) (limit : WaitLimit)
    {prepared : PreparedCall} (asked : signals.isEmpty = false)
    (chosen : session.prepare method tokens = .ok prepared)
    (known : session.validate signals = .ok ())
    (accepted : script.subscriptionError = none) :
    let call := methodCall prepared
    let armed : ArmedWait := ⟨connection.bus.subscriptions, signals⟩
    let called := (connection.bus.subscribe.2.call call).2
    let mailbox : Mailbox := ⟨script.signals, script.emitted call.method, script.closing⟩
    let alone := session.waitArmed armed limit { connection with bus := called }
    let final := session.invokeAndWait method tokens signals limit connection
    let answered := connection.clock + script.replyDelay
    called.mailbox? armed.subscription = some mailbox ∧
      (∀ reason, script.reply call.method = .error reason →
        final.1 = .failed (.remoteCallFailed call.method reason) ∧
          final.2.clock = answered) ∧
      ∀ reply, script.reply call.method = .ok reply →
        (∀ result, alone.1 = .ofExcept result →
          final.1 = .done ⟨reply, some result⟩ ∧
            final.2.clock = max answered alone.2.clock) ∧
        (alone.1 = .pending → final.1 = .pending) ∧
        (∀ milliseconds, limit.milliseconds? = some milliseconds →
          milliseconds ≤ script.replyDelay →
          final.2.clock = answered ∧
            ((∀ event ∈ mailbox.stream, event.after ≤ milliseconds →
                (armed.within limit).react (.stream event.item) = none) →
              final.1 = .done ⟨reply, some (.error (.timeout limit))⟩)) ∧
        (script.signals = [] → script.closing = false →
          ∀ notification,
            (script.emitted call.method).find? (armed.within limit).wants = some notification →
            final.1 = .done ⟨reply, some (.ok ⟨notification.shortName, notification.values⟩)⟩ ∧
              final.2.clock = answered) := by
  intro call armed called mailbox alone final answered
  let wait := armed.within limit
  have ran := ScriptedBus.leads_afterAll (ScriptedBus.kept_ofScript script).introspect history
  rw [← reached] at ran
  have same : connection.bus.script = script := ran.script
  have found := ScriptedBus.mailbox?_call_subscribe ran.kept (same ▸ accepted) call
  rw [same] at found
  have together : final.1 = .ofOption ((Race.joint
        (some ⟨script.replyDelay, script.reply call.method⟩) (wait.run mailbox.stream)).map
          fun ending => raced call.method ending.item) ∧
      ∀ ending ∈ Race.joint (some ⟨script.replyDelay, script.reply call.method⟩)
        (wait.run mailbox.stream), final.2.clock = connection.clock + ending.after := by
    have told := invokeAndWait_of_script scripted timely ran.kept limit asked chosen known
      (same ▸ accepted)
    rw [same] at told
    exact told
  have settles : wait.settleTimed (session.expected armed limit called) =
      wait.run mailbox.stream := settleTimed_expected scripted found limit
  have joined (reply : List Value) (replies : script.reply call.method = .ok reply)
      (ending : Timed WaitResult) (ends : wait.run mailbox.stream = some ending) :
      final.1 = .done ⟨reply, some ending.item⟩ ∧
        final.2.clock = connection.clock + max script.replyDelay ending.after := by
    rw [replies, ends] at together
    exact ⟨together.1, together.2 _ rfl⟩
  refine ⟨found, ?_, fun reply replies => ⟨?_, ?_, ?_, ?_⟩⟩
  · intro reason replies
    rw [replies] at together
    exact ⟨together.1, together.2 _ rfl⟩
  · intro result gives
    cases ends : wait.run mailbox.stream with
    | none =>
        have never : alone.1 = .pending :=
          session.waitArmed_of_endless { connection with bus := called } (settles.trans ends)
        exact absurd (gives.symm.trans never) (Outcome.ofExcept_ne_pending result)
    | some ending =>
        obtain ⟨gave, ended⟩ := session.waitArmed_of_settleTimed
          { connection with bus := called } (settles.trans ends)
        obtain rfl : result = ending.item := Outcome.ofExcept_injective (gives.symm.trans gave)
        obtain ⟨both, later⟩ := joined reply replies ending ends
        refine ⟨both, ?_⟩
        rw [later, show alone.2.clock = connection.clock + ending.after from ended,
          Nat.add_max_add_left]
  · intro never
    cases ends : wait.run mailbox.stream with
    | some ending =>
        obtain ⟨gave, -⟩ := session.waitArmed_of_settleTimed
          { connection with bus := called } (settles.trans ends)
        exact absurd (gave.symm.trans never) (Outcome.ofExcept_ne_pending _)
    | none =>
        rw [replies, ends] at together
        exact together.1
  · intro milliseconds limited short
    cases ends : wait.run mailbox.stream with
    | none => exact absurd ends (Wait.run_ne_none limited mailbox.stream)
    | some ending =>
        have inTime := Wait.after_le_of_run_eq_some limited ends
        obtain ⟨both, later⟩ := joined reply replies ending ends
        refine ⟨?_, fun silent => ?_⟩
        · rw [later, Nat.max_eq_left (Nat.le_trans inTime short)]
        · obtain rfl := Option.some.inj (ends.symm.trans (Wait.run_of_silent limited silent))
          exact both
  · intro unscripted remains notification emitted
    have ends : wait.run mailbox.stream = some ⟨0, Wait.arrival notification⟩ := by
      change wait.run (Mailbox.stream ⟨script.signals, _, script.closing⟩) = _
      rw [unscripted, remains]
      exact Wait.run_of_emitted emitted
    obtain ⟨both, later⟩ := joined reply replies _ ends
    exact ⟨both, by rw [later, Nat.max_zero]⟩

section Slow

/-- A remote object that tells at once that a scan is done but replies after five seconds,
and whose subscriptions first get another signal, after four. -/
def slowScan : Script :=
  { Script.publishing [Interface.nickel] with
    signals := [⟨4000, ⟨"wmNetworkConnected", []⟩⟩]
    emissions := [("pfmRescanBooks", [⟨"pfmDoneProcessing", []⟩])]
    replyDelay := 5000 }

/-- The signal of the scan stands behind the other one when the limit is reached, and the
reply comes two seconds later. -/
theorem slow_reply_after_timeout :
    let session : Session ScriptedBus :=
      ⟨ScriptedBus.bus, Target.nickel, Interface.nickel, .callFirst⟩
    let connection : Connection ScriptedBus :=
      ⟨(ScriptedBus.ofScript slowScan).introspect.2.afterAll [.subscribe, .drop 0], 7, []⟩
    let final := session.invokeAndWait "pfmRescanBooks" [] (.ofList ["pfmDoneProcessing"])
      (.ofSeconds 3) connection
    final.1 = .done ⟨[], some (.error (.timeout (.ofSeconds 3)))⟩ ∧ final.2.clock = 5007 := by
  intro session connection
  have chosen : session.prepare "pfmRescanBooks" [] = .ok ⟨⟨"pfmRescanBooks", []⟩, []⟩ := rfl
  obtain ⟨-, -, both⟩ := session.invokeAndWait_joins_call_and_wait rfl Scheduler.timely_callFirst
    slowScan [.subscribe, .drop 0] connection rfl "pfmRescanBooks" []
    (.ofList ["pfmDoneProcessing"]) (.ofSeconds 3) (by rfl) chosen (by rfl) (by rfl)
  have joined := (both [] (by rfl)).1 (.error (.timeout (.ofSeconds 3))) (by rfl)
  dsimp only at joined ⊢
  rw [joined.1, joined.2]
  exact ⟨rfl, by decide +kernel⟩

end Slow

end Session

end BusBridge
