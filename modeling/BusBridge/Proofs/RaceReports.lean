import BusBridge.Proofs.Race

/-!
# What a race reports

Warnings and errors are the severe reports.  Of all that a race reports only one thing is
severe, and that depends on the order of things: a wait that has failed is reported if the
call has not been seen to return by then, and a wait that fails later is not.
-/

namespace BusBridge

namespace Log

/-- A warning or an error. -/
def Event.isSevere (event : Event) : Bool :=
  event.level.verbosity ≤ Level.warn.verbosity

def severe (events : List Event) : List Event :=
  events.filter Event.isSevere

@[simp]
theorem severe_nil : severe [] = [] :=
  rfl

@[simp]
theorem severe_append (first second : List Event) :
    severe (first ++ second) = severe first ++ severe second :=
  List.filter_append ..

theorem severe_eq_nil_of_forall {events : List Event}
    (mild : ∀ event ∈ events, event.isSevere = false) : severe events = [] :=
  List.filter_eq_nil_iff.mpr fun event member => Bool.eq_false_iff.mp (mild event member)

end Log

namespace Look

/-- What a wait meets at these looks, as long as the call is not seen to return. -/
def metBeforeReply (looks : List Look) : List WaitEvent :=
  (looks.takeWhile fun look => look.reply?.isNone).flatMap Look.events

end Look

/-- All looks at the call and at the wait, in their order. -/
def Schedule.looks {events : List WaitEvent} {reply? : Option Reply}
    (schedule : Schedule events reply?) : List Look :=
  .wait schedule.early :: schedule.turns.flatMap fun turn => turn.item.looks

/-- At the looks of a schedule the wait meets all its events. -/
theorem Schedule.flatMap_events_looks {events : List WaitEvent} {reply? : Option Reply}
    (schedule : Schedule events reply?) : schedule.looks.flatMap Look.events = events := by
  have turns (turn : Turn) : turn.looks.flatMap Look.events = turn.events := by
    rw [Turn.looks]
    cases turn.callFirst <;> simp [Look.events]
  rw [Schedule.looks, List.flatMap_cons, List.flatMap_assoc]
  simp only [turns]
  exact schedule.meets_all

/-- A wait that has ended before the call has ended. -/
theorem Wait.settle_of_metBeforeReply {wait : Wait} {looks : List Look} {result : WaitResult}
    (ended : wait.settle (Look.metBeforeReply looks) = some result) :
    wait.settle (looks.flatMap Look.events) = some result := by
  have split := List.takeWhile_append_dropWhile (p := fun look : Look => look.reply?.isNone)
    (l := looks)
  rw [← split, List.flatMap_append, Wait.settle_append]
  exact Option.or_eq_some_iff.mpr (.inl ended)

/-- By time, the wait meets before the reply what happens earlier. -/
theorem Scheduler.metBeforeReply_callFirst (events : List (Timed WaitEvent))
    (reply : Timed Reply) :
    Look.metBeforeReply (callFirst events (some reply)).looks =
      (events.takeWhile fun timed => timed.after < reply.after).map Timed.item := by
  have meets (earlier : List (Timed WaitEvent)) (later : List (Timed Turn)) :
      Look.metBeforeReply ((earlier.map (Timed.map Turn.ofEvent) ++
        reply.map Turn.ofReply :: later).flatMap fun turn => turn.item.looks) =
          earlier.map Timed.item := by
    induction earlier with
    | nil => rfl
    | cons first earlier ih => exact congrArg (List.cons first.item) ih
  exact meets _ _

theorem Wait.severe_passingReports (wait : Wait) (events : List WaitEvent) :
    Log.severe (wait.passingReports events) = [] := by
  refine Log.severe_eq_nil_of_forall fun event passed => ?_
  obtain ⟨met, -, reported⟩ := List.mem_filterMap.mp passed
  match met with
  | .stream (.notified notification) =>
      obtain rfl := Option.some.inj reported
      rfl

namespace Race

variable {method : String} {wait : Wait} {race : Race}

/-- The report about a wait that has failed before the call has returned. -/
def waitFailure (method : String) (missed : SessionError) : Log.Event :=
  ⟨.warn, logTarget, "signal wait ended before the call returned",
    [("method", .quoted method), ("error", .plain missed.message)]⟩

/-- What is reported about a wait that has ended before the call, if it has. -/
def early (method : String) (result? : Option WaitResult) : List Log.Event :=
  result?.elim [] (waitedReports method)

theorem early_error (missed : SessionError) :
    early method (some (.error missed)) = [waitFailure method missed] :=
  rfl

theorem severe_waitedReports (result : WaitResult) :
    Log.severe (waitedReports method result) = waitedReports method result := by
  cases result <;> rfl

section Looks

/-- Once the call has returned or the wait has ended, nothing severe is reported any more. -/
theorem look_ahead (found : Look) (ahead : race ≠ .running) :
    (look method wait race found).1 ≠ .running ∧
      Log.severe (look method wait race found).2 = [] := by
  cases found with
  | call answer? =>
      rcases answer? with _ | (_ | _) <;> cases race <;> simp_all [look]
  | wait events =>
      cases settled : wait.settle events <;> cases race <;>
        simp_all [look, Wait.severe_passingReports]

theorem severe_lookAll_ahead (looks : List Look) (ahead : race ≠ .running) :
    Log.severe (lookAll method wait race looks).2 = [] := by
  induction looks generalizing race with
  | nil => rfl
  | cons first others ih =>
      obtain ⟨later, mild⟩ := @look_ahead method wait race first ahead
      rw [lookAll, Log.severe_append, mild, ih later, List.append_nil]

/-- The one severe report is about a wait that fails while the call is not yet seen to return. -/
theorem severe_lookAll_running (looks : List Look) :
    Log.severe (lookAll method wait .running looks).2 =
      early method (wait.settle (Look.metBeforeReply looks)) := by
  induction looks with
  | nil => rfl
  | cons first others ih =>
      rw [lookAll, Log.severe_append]
      rcases first with (_ | (reason | reply)) | events
      case call.none => exact ih
      case call.some.error =>
        have ahead : finished (.error reason) ≠ running := by simp
        exact severe_lookAll_ahead others ahead
      case call.some.ok =>
        have ahead : replied reply ≠ running := by simp
        exact severe_lookAll_ahead others ahead
      case wait =>
        -- The first look at the wait that ends it decides; by then the race was still running.
        have met : Look.metBeforeReply (.wait events :: others) =
            events ++ Look.metBeforeReply others := rfl
        rw [met, Wait.settle_append]
        cases settled : wait.settle events with
        | none =>
            simp only [look, settled, Wait.severe_passingReports, Option.none_or, List.nil_append]
            exact ih
        | some result =>
            have ahead : waited result ≠ running := by simp
            simp only [look, settled, Log.severe_append, Wait.severe_passingReports,
              severe_waitedReports, List.nil_append, Option.some_or]
            rw [severe_lookAll_ahead others ahead, List.append_nil]
            rfl

theorem lookAll_append (first second : List Look) :
    (lookAll method wait race (first ++ second)).2 =
      (lookAll method wait race first).2 ++
        (lookAll method wait (lookAll method wait race first).1 second).2 := by
  induction first generalizing race with
  | nil => rfl
  | cons look others ih => simp only [List.cons_append, lookAll, ih, List.append_assoc]

/-- That a race stops when it is over makes no difference to its severe reports. -/
theorem severe_run (turns : List (Timed Turn)) :
    Log.severe (run method wait race turns).2 =
      Log.severe (lookAll method wait race (turns.flatMap fun turn => turn.item.looks)).2 := by
  induction turns generalizing race with
  | nil => rfl
  | cons turn turns ih =>
      rw [run, List.flatMap_cons, lookAll_append, Log.severe_append, ← ih, step]
      cases finished : (lookAll method wait race turn.item.looks).1.result? with
      | none => simp [finished]
      | some result =>
          have ahead : (lookAll method wait race turn.item.looks).1 ≠ .running := by
            intro running
            rw [running] at finished
            cases finished
          rw [ih, severe_lookAll_ahead _ ahead]
          simp [finished]

/-- Whatever the schedule is, the severe reports of a race are told by the events that the wait
meets before the call is seen to return. -/
theorem severe_follow {events : List WaitEvent} {reply? : Option Reply}
    (schedule : Schedule events reply?) :
    Log.severe ((follow method wait schedule).1 ++ (follow method wait schedule).2.2) =
      early method (wait.settle (Look.metBeforeReply schedule.looks)) := by
  rw [← severe_lookAll_running, Schedule.looks, lookAll, Log.severe_append, Log.severe_append,
    ← severe_run]
  rfl

end Looks

end Race

end BusBridge
