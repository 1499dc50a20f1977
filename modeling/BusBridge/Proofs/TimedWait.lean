import BusBridge.Interface.Nickel
import BusBridge.Proofs.Session
import BusBridge.ScriptedBus

/-!
# Timed waits on a scripted bus

A wait reads one event after the other while a single timer runs, which starts with the
wait and is not set back by the signals that are passed over.  On a scripted bus its end
can be told in advance: the delays of the scripted signals add up to the moments at which
they are read, and only after the last of them come the signals that were emitted.
-/

namespace BusBridge

namespace Wait

def wants (wait : Wait) (notification : Notification) : Bool :=
  wait.signals.contains notification.shortName

/-- What falls on this moment comes before the limit, or together with it. -/
def inTime (wait : Wait) (moment : Nat) : Bool :=
  wait.limit.milliseconds?.all (moment ≤ ·)

def expiry? (wait : Wait) : Option (Timed WaitResult) :=
  wait.limit.milliseconds?.map fun limit => ⟨limit, .error (.timeout wait.limit)⟩

def arrival (notification : Notification) : WaitResult :=
  .ok ⟨notification.shortName, notification.values⟩

theorem react_notified (wait : Wait) (notification : Notification) :
    wait.react (.stream (.notified notification)) =
      if wait.wants notification then some (arrival notification) else none :=
  rfl

/-- Time that has run out does not come back. -/
theorem inTime_of_le {wait : Wait} {earlier later : Nat} (order : earlier ≤ later)
    (reached : wait.inTime later = true) : wait.inTime earlier = true := by
  rw [inTime] at reached ⊢
  cases limited : wait.limit.milliseconds? with
  | none => rfl
  | some limit =>
      simp only [limited, Option.all_some, decide_eq_true_eq] at reached ⊢
      omega

theorem run_nil (wait : Wait) : wait.run [] = wait.expiry? := by
  rw [run, events, expiry?]
  cases wait.limit.milliseconds? <;> rfl

theorem settleTimed_cons (wait : Wait) (first : Timed WaitEvent) (rest : List (Timed WaitEvent)) :
    wait.settleTimed (first :: rest) =
      ((wait.react first.item).map (⟨first.after, ·⟩)).or (wait.settleTimed rest) := by
  rw [settleTimed, List.findSome?_cons]
  cases wait.react first.item <;> rfl

theorem events_cons_of_inTime {wait : Wait} {first : Timed StreamEvent}
    (reached : wait.inTime first.after = true) (rest : List (Timed StreamEvent)) :
    wait.events (first :: rest) = first.map .stream :: wait.events rest := by
  rw [inTime] at reached
  rw [events, events]
  cases limited : wait.limit.milliseconds? with
  | none => rfl
  | some limit =>
      have early : decide (first.after ≤ limit) = true := by rwa [limited] at reached
      have kept : (first :: rest).takeWhile (fun timed => timed.after ≤ limit) =
          first :: rest.takeWhile (fun timed => timed.after ≤ limit) :=
        List.takeWhile_cons_of_pos early
      dsimp only
      rw [kept]
      rfl

/-- What comes too late is the same as nothing. -/
theorem events_cons_of_late {wait : Wait} {first : Timed StreamEvent}
    (late : ¬ wait.inTime first.after = true) (rest : List (Timed StreamEvent)) :
    wait.events (first :: rest) = wait.events [] := by
  rw [inTime] at late
  rw [events, events]
  cases limited : wait.limit.milliseconds? with
  | none => simp [limited] at late
  | some limit =>
      have beyond : ¬ decide (first.after ≤ limit) = true := by rwa [limited] at late
      have cut : (first :: rest).takeWhile (fun timed => timed.after ≤ limit) = [] :=
        List.takeWhile_cons_of_neg beyond
      dsimp only
      rw [cut]
      rfl

/-- An event ends the wait, or is passed over, or comes too late. -/
theorem run_cons (wait : Wait) (first : Timed StreamEvent) (rest : List (Timed StreamEvent)) :
    wait.run (first :: rest) =
      if wait.inTime first.after then
        ((wait.react (.stream first.item)).map (⟨first.after, ·⟩)).or (wait.run rest)
      else wait.expiry? := by
  by_cases reached : wait.inTime first.after = true
  · rw [if_pos reached, run, events_cons_of_inTime reached]
    exact wait.settleTimed_cons (first.map .stream) _
  · rw [if_neg reached, run, events_cons_of_late reached]
    exact wait.run_nil

end Wait

namespace Mailbox

def streamAt (mailbox : Mailbox) (now : Nat) : List (Timed StreamEvent) :=
  mailbox.streamFrom now mailbox.scripted

theorem streamAt_of_empty {mailbox : Mailbox} (empty : mailbox.next? = none) (now : Nat) :
    mailbox.streamAt now = [] := by
  obtain ⟨scripted, live, closing⟩ := mailbox
  cases scripted with
  | cons first others => cases empty
  | nil =>
      cases closing with
      | true => cases empty
      | false =>
          cases live with
          | cons first others => cases empty
          | nil => rfl

theorem streamFrom_congr {mailbox other : Mailbox} (live : mailbox.live = other.live)
    (closing : mailbox.closing = other.closing) (now : Nat) (signals : List (Timed Notification)) :
    mailbox.streamFrom now signals = other.streamFrom now signals := by
  induction signals generalizing now with
  | nil => rw [streamFrom, streamFrom, rest, rest, live, closing]
  | cons first others ih => rw [streamFrom, streamFrom, ih]

/-- The stream is what comes from reading one event after the other: each is there when the
one before it has been read and its own delay has passed. -/
theorem streamAt_of_next? {mailbox remaining : Mailbox} {event : Timed StreamEvent}
    (taken : mailbox.next? = some (event, remaining)) (now : Nat) :
    mailbox.streamAt now = ⟨now + event.after, event.item⟩ ::
      if event.item = .closed then [] else remaining.streamAt (now + event.after) := by
  obtain ⟨scripted, live, closing⟩ := mailbox
  cases scripted with
  | cons first others =>
      obtain ⟨rfl, rfl⟩ := Prod.mk.inj (Option.some.inj taken)
      rw [if_neg nofun]
      refine congrArg (List.cons _) ?_
      apply streamFrom_congr <;> rfl
  | nil =>
      cases closing with
      | true =>
          obtain ⟨rfl, rfl⟩ := Prod.mk.inj (Option.some.inj taken)
          rfl
      | false =>
          cases live with
          | nil => cases taken
          | cons first others =>
              obtain ⟨rfl, rfl⟩ := Prod.mk.inj (Option.some.inj taken)
              rfl

/-- The time that it takes to read the first `count` of the scripted signals. -/
def due (mailbox : Mailbox) (count : Nat) : Nat :=
  (mailbox.scripted.take count).foldr (fun timed time => timed.after + time) 0

end Mailbox

namespace Wait

/-- One turn of the wait: the next event is awaited until the limit, and when it was passed
over the wait goes on from that moment, under the same limit. -/
theorem run_streamAt (wait : Wait) (mailbox : Mailbox) (now : Nat) :
    wait.run (mailbox.streamAt now) =
      match mailbox.next? with
      | none => wait.expiry?
      | some (event, remaining) =>
        if wait.inTime (now + event.after) then
          ((wait.react (.stream event.item)).map (⟨now + event.after, ·⟩)).or
            (wait.run (remaining.streamAt (now + event.after)))
        else wait.expiry? := by
  cases taken : mailbox.next? with
  | none => rw [Mailbox.streamAt_of_empty taken, run_nil]
  | some result =>
      obtain ⟨event, remaining⟩ := result
      rw [Mailbox.streamAt_of_next? taken, run_cons]
      by_cases closed : event.item = .closed
      · rw [if_pos closed]
        simp [closed, react]
      · rw [if_neg closed]

/-- How and when a wait ends that has passed over all scripted signals. -/
def forecastAfterScript (wait : Wait) (mailbox : Mailbox) (now : Nat) :
    Option (Timed WaitResult) :=
  if mailbox.closing then some ⟨now, .error (.subscription "notification stream closed")⟩
  else match mailbox.live.find? wait.wants with
    | some notification => some ⟨now, arrival notification⟩
    | none => wait.expiry?

/-- How and when a wait ends that has lasted until now.  The first scripted signal that is
wanted is read when the delays up to its own have passed; without one it depends on what
comes after the script.  The limit is first if that moment is beyond it. -/
def forecast (wait : Wait) (mailbox : Mailbox) (now : Nat) : Option (Timed WaitResult) :=
  match mailbox.scripted.find? fun timed => wait.wants timed.item with
  | some first =>
    let index := mailbox.scripted.findIdx fun timed => wait.wants timed.item
    let moment := now + mailbox.due (index + 1)
    if wait.inTime moment then some ⟨moment, arrival first.item⟩ else wait.expiry?
  | none =>
    let moment := now + mailbox.due mailbox.scripted.length
    if wait.inTime moment then wait.forecastAfterScript mailbox moment else wait.expiry?

section Script

variable (wait : Wait) {live : List Notification} {closing : Bool} {now : Nat}

theorem inTime_zero : wait.inTime 0 = true := by
  rw [inTime]
  cases wait.limit.milliseconds? with
  | none => rfl
  | some limit => exact decide_eq_true (Nat.zero_le limit)

theorem run_streamAt_nil (reached : wait.inTime now = true) :
    wait.run (Mailbox.streamAt ⟨[], live, closing⟩ now) =
      wait.forecastAfterScript ⟨[], live, closing⟩ now := by
  cases closing with
  | true =>
      rw [run_streamAt]
      simp [Mailbox.next?, forecastAfterScript, react, reached]
  | false =>
      induction live with
      | nil => rw [run_streamAt]; rfl
      | cons first rest ih =>
          -- What was emitted is there already, so that no more time passes.
          rw [run_streamAt]
          change (if wait.inTime (now + 0) then
            ((wait.react (.stream (.notified first))).map (⟨now + 0, ·⟩)).or
              (wait.run (Mailbox.streamAt ⟨[], rest, false⟩ (now + 0))) else wait.expiry?) = _
          rw [Nat.add_zero, if_pos reached, react_notified, ih]
          by_cases wanted : wait.wants first = true
          · simp [forecastAfterScript, List.find?_cons_of_pos, wanted]
          · simp [forecastAfterScript, List.find?_cons_of_neg, wanted]

theorem forecast_nil (reached : wait.inTime now = true) :
    wait.forecast ⟨[], live, closing⟩ now = wait.forecastAfterScript ⟨[], live, closing⟩ now := by
  simp [forecast, Mailbox.due, reached]

theorem forecast_cons_of_wanted {first : Timed Notification} {rest : List (Timed Notification)}
    (wanted : wait.wants first.item = true) :
    wait.forecast ⟨first :: rest, live, closing⟩ now =
      if wait.inTime (now + first.after) then some ⟨now + first.after, arrival first.item⟩
      else wait.expiry? := by
  simp [forecast, Mailbox.due, wanted, List.findIdx_cons]

/-- A signal that is passed over takes its time from the rest of the wait. -/
theorem forecast_cons_of_unwanted {first : Timed Notification} {rest : List (Timed Notification)}
    (unwanted : wait.wants first.item = false) :
    wait.forecast ⟨first :: rest, live, closing⟩ now =
      if wait.inTime (now + first.after) then
        wait.forecast ⟨rest, live, closing⟩ (now + first.after)
      else wait.expiry? := by
  have due (count : Nat) : now + Mailbox.due ⟨first :: rest, live, closing⟩ (count + 1) =
      now + first.after + Mailbox.due ⟨rest, live, closing⟩ count := by
    simp [Mailbox.due, Nat.add_assoc]
  have index : (first :: rest).findIdx (fun timed => wait.wants timed.item) =
      rest.findIdx (fun timed => wait.wants timed.item) + 1 := by
    simp [List.findIdx_cons, unwanted]
  have search : (first :: rest).find? (fun timed => wait.wants timed.item) =
      rest.find? (fun timed => wait.wants timed.item) := by
    simp [unwanted]
  have late (duration : Nat) (reached : ¬ wait.inTime (now + first.after) = true) :
      ¬ wait.inTime (now + first.after + duration) = true :=
    fun later => reached (inTime_of_le (Nat.le_add_right _ _) later)
  rw [forecast, forecast, search, index, List.length_cons]
  by_cases reached : wait.inTime (now + first.after) = true
  · rw [if_pos reached]
    cases rest.find? fun timed => wait.wants timed.item with
    | some wanted => simp only [due]
    | none =>
        simp only [due]
        rfl
  · rw [if_neg reached]
    cases rest.find? fun timed => wait.wants timed.item <;>
      exact if_neg (due _ ▸ late _ reached)

end Script

theorem run_streamAt_eq_forecast (wait : Wait) (mailbox : Mailbox) {now : Nat}
    (reached : wait.inTime now = true) :
    wait.run (mailbox.streamAt now) = wait.forecast mailbox now := by
  obtain ⟨scripted, live, closing⟩ := mailbox
  induction scripted generalizing now with
  | nil => rw [wait.run_streamAt_nil reached, wait.forecast_nil reached]
  | cons first rest ih =>
      -- The rest of the script starts when the first signal was read, not at the beginning.
      rw [run_streamAt]
      change (if wait.inTime (now + first.after) then
        ((wait.react (.stream (.notified first.item))).map (⟨now + first.after, ·⟩)).or
          (wait.run (Mailbox.streamAt ⟨rest, live, closing⟩ (now + first.after)))
        else wait.expiry?) = _
      rw [react_notified]
      cases wanted : wait.wants first.item with
      | true =>
          rw [wait.forecast_cons_of_wanted wanted]
          rfl
      | false =>
          rw [wait.forecast_cons_of_unwanted wanted]
          by_cases read : wait.inTime (now + first.after) = true
          · rw [if_pos read, if_pos read, ← ih read]
            rfl
          · rw [if_neg read, if_neg read]

end Wait

namespace Session

/-- A wait on a scripted bus ends as it was forecast, and takes as long, counted from when
it begins: whatever the clock shows then.  If there is nothing to forecast it never ends. -/
theorem waitArmed_ends_as_forecast (session : Session ScriptedBus)
    (scripted : session.bus = ScriptedBus.bus) (armed : ArmedWait) (limit : WaitLimit)
    (connection : Connection ScriptedBus) (mailbox : Mailbox)
    (found : connection.bus.mailbox? armed.subscription = some mailbox) :
    match (armed.within limit).forecast mailbox 0 with
    | some ending =>
      (session.waitArmed armed limit connection).1 = .ofExcept ending.item ∧
        (session.waitArmed armed limit connection).2.clock = connection.clock + ending.after
    | none => (session.waitArmed armed limit connection).1 = .pending := by
  have stream : session.bus.stream armed.subscription connection.bus = mailbox.streamAt 0 := by
    rw [scripted]
    change connection.bus.stream armed.subscription = _
    rw [ScriptedBus.stream, found]
    rfl
  have ends : (armed.within limit).settleTimed (session.expected armed limit connection.bus) =
      (armed.within limit).forecast mailbox 0 := by
    rw [expected, stream]
    exact Wait.run_streamAt_eq_forecast _ mailbox (Wait.inTime_zero _)
  rw [waitArmed, ends]
  cases (armed.within limit).forecast mailbox 0 with
  | none => rfl
  | some ending => exact ⟨rfl, rfl⟩

end Session

section Tie

/-- A remote object that is done exactly a second after it was asked. -/
def punctual : Script :=
  { Script.publishing [Interface.nickel] with
    signals := [⟨400, ⟨"com.example.Begun", []⟩⟩, ⟨600, ⟨"com.example.Done", []⟩⟩] }

/-- The signal comes on the limit, and before it. -/
theorem punctual_signal_in_time :
    let session : Session ScriptedBus :=
      ⟨ScriptedBus.bus, Target.nickel, Interface.nickel, .callFirst⟩
    let ending := session.waitArmed ⟨0, .ofList ["Done"]⟩ (.ofSeconds 1)
      ⟨(ScriptedBus.ofScript punctual).subscribe.2, 7, []⟩
    ending.1 = .done ⟨"Done", []⟩ ∧ ending.2.clock = 1007 := by
  intro session
  have told : (ArmedWait.within ⟨0, .ofList ["Done"]⟩ (.ofSeconds 1)).forecast
      ⟨punctual.signals, [], punctual.closing⟩ 0 = some ⟨1000, .ok ⟨"Done", []⟩⟩ := by rfl
  have ended := session.waitArmed_ends_as_forecast rfl ⟨0, .ofList ["Done"]⟩ (.ofSeconds 1)
    ⟨(ScriptedBus.ofScript punctual).subscribe.2, 7, []⟩
    ⟨punctual.signals, [], punctual.closing⟩ (by rfl)
  rw [told] at ended
  exact ended

end Tie

end BusBridge
