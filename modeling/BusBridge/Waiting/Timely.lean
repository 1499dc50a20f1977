import BusBridge.Waiting.Schedule

/-!
# Schedules that keep to the time

A scheduler decides when the program looks at a call and at the wait beside it.  One that
keeps to the time takes up everything at its own moment: the turns follow the clock, and
no time passes before the call is sent.  What falls on the same moment may come in one
turn or in several, and in either order.
-/

namespace BusBridge

namespace Timed

variable {α β : Type}

/-- One thing happens after the other, or at the same moment. -/
def Rising (items : List (Timed α)) : Prop :=
  items.Pairwise fun first second => first.after ≤ second.after

theorem rising_map {change : α → β} {items : List (Timed α)} :
    Rising (items.map (map change)) ↔ Rising items :=
  List.pairwise_map

end Timed

namespace Turn

/-- What the wait meets in a number of turns, at the times of these. -/
def metAt (turns : List (Timed Turn)) : List (Timed WaitEvent) :=
  turns.flatMap fun turn => turn.item.events.map (Timed.mk turn.after)

/-- What the call returns with in a number of turns, at the times of these. -/
def returnedAt (turns : List (Timed Turn)) : List (Timed Reply) :=
  turns.filterMap fun turn => turn.item.reply?.map (Timed.mk turn.after)

theorem metAt_cons (turn : Timed Turn) (turns : List (Timed Turn)) :
    metAt (turn :: turns) = turn.item.events.map (Timed.mk turn.after) ++ metAt turns :=
  rfl

theorem metAt_append (first second : List (Timed Turn)) :
    metAt (first ++ second) = metAt first ++ metAt second :=
  List.flatMap_append

theorem returnedAt_cons (turn : Timed Turn) (turns : List (Timed Turn)) :
    returnedAt (turn :: turns) =
      (turn.item.reply?.map (Timed.mk turn.after)).toList ++ returnedAt turns := by
  cases replies : turn.item.reply? <;> simp [returnedAt, replies]

theorem returnedAt_append (first second : List (Timed Turn)) :
    returnedAt (first ++ second) = returnedAt first ++ returnedAt second :=
  List.filterMap_append

theorem metAt_map_ofEvent (events : List (Timed WaitEvent)) :
    metAt (events.map (Timed.map ofEvent)) = events := by
  induction events with
  | nil => rfl
  | cons first rest ih =>
      rw [List.map_cons, metAt_cons, ih]
      rfl

theorem returnedAt_map_ofEvent (events : List (Timed WaitEvent)) :
    returnedAt (events.map (Timed.map ofEvent)) = [] := by
  induction events with
  | nil => rfl
  | cons first rest ih =>
      rw [List.map_cons, returnedAt_cons, ih]
      rfl

end Turn

/-- The turns follow the clock, and take up at each moment what falls on it.  What the
wait meets before the call is sent is there at once. -/
structure Schedule.Timely {events : List (Timed WaitEvent)} {reply? : Option (Timed Reply)}
    (schedule : Schedule (events.map Timed.item) (reply?.map Timed.item)) : Prop where
  rising : Timed.Rising schedule.turns
  met_in_time : schedule.early.map (Timed.mk 0) ++ Turn.metAt schedule.turns = events
  returned_in_time : Turn.returnedAt schedule.turns = reply?.toList

/-- Whatever is going to happen, the scheduler keeps to the time. -/
def Scheduler.Timely (scheduler : Scheduler) : Prop :=
  ∀ (events : List (Timed WaitEvent)) (reply? : Option (Timed Reply)),
    Timed.Rising events → (scheduler events reply?).Timely

namespace Scheduler

theorem rising_byTime {events : List (Timed WaitEvent)} (rising : Timed.Rising events)
    (reply? : Option (Timed Reply)) : Timed.Rising (byTime events reply?) := by
  cases reply? with
  | none => exact Timed.rising_map.mpr rising
  | some reply =>
      have before : ∀ timed ∈ events.takeWhile fun timed => timed.after < reply.after,
          timed.after < reply.after := fun timed member =>
        of_decide_eq_true (List.all_eq_true.mp List.all_takeWhile timed member)
      have after : ∀ timed ∈ events.dropWhile fun timed => timed.after < reply.after,
          reply.after ≤ timed.after := by
        have order : Timed.Rising (events.dropWhile fun timed => timed.after < reply.after) :=
          rising.sublist (List.dropWhile_sublist _)
        cases rest : events.dropWhile fun timed => timed.after < reply.after with
        | nil => simp
        | cons first others =>
            have reached : reply.after ≤ first.after := by
              have stopped :=
                List.head?_dropWhile_not (fun timed => timed.after < reply.after) events
              simpa [rest] using stopped
            rw [rest] at order
            intro timed member
            rcases List.mem_cons.mp member with rfl | member
            · exact reached
            · exact Nat.le_trans reached (List.rel_of_pairwise_cons order member)
      rw [byTime, Timed.Rising, List.pairwise_append, List.pairwise_cons]
      refine ⟨Timed.rising_map.mpr (rising.sublist (List.takeWhile_sublist _)),
        ⟨?_, Timed.rising_map.mpr (rising.sublist (List.dropWhile_sublist _))⟩, ?_⟩
      · intro turn member
        obtain ⟨timed, found, rfl⟩ := List.mem_map.mp member
        exact after timed found
      · intro turn member other found
        obtain ⟨timed, early, rfl⟩ := List.mem_map.mp member
        have sooner := before timed early
        rcases List.mem_cons.mp found with rfl | found
        · exact Nat.le_of_lt sooner
        · obtain ⟨later, late, rfl⟩ := List.mem_map.mp found
          exact Nat.le_trans (Nat.le_of_lt sooner) (after later late)

theorem metAt_byTime (events : List (Timed WaitEvent)) (reply? : Option (Timed Reply)) :
    Turn.metAt (byTime events reply?) = events := by
  cases reply? with
  | none => exact Turn.metAt_map_ofEvent events
  | some reply =>
      rw [byTime, Turn.metAt_append, Turn.metAt_cons, Turn.metAt_map_ofEvent,
        Turn.metAt_map_ofEvent]
      exact List.takeWhile_append_dropWhile

theorem returnedAt_byTime (events : List (Timed WaitEvent)) (reply? : Option (Timed Reply)) :
    Turn.returnedAt (byTime events reply?) = reply?.toList := by
  cases reply? with
  | none => exact Turn.returnedAt_map_ofEvent events
  | some reply =>
      rw [byTime, Turn.returnedAt_append, Turn.returnedAt_cons, Turn.returnedAt_map_ofEvent,
        Turn.returnedAt_map_ofEvent]
      rfl

/-- The order in which programs run keeps to the time. -/
theorem timely_callFirst : callFirst.Timely := fun events reply? rising =>
  ⟨rising_byTime rising reply?, metAt_byTime events reply?, returnedAt_byTime events reply?⟩

theorem timely_waitFirst : waitFirst.Timely := by
  intro events reply? rising
  refine ⟨rising_byTime (rising.sublist (List.dropWhile_sublist _)) reply?, ?_,
    returnedAt_byTime _ reply?⟩
  have atOnce : ((events.takeWhile fun timed => timed.after = 0).map Timed.item).map (Timed.mk 0) =
      events.takeWhile fun timed => timed.after = 0 := by
    rw [List.map_map]
    refine (List.map_congr_left fun timed early => ?_).trans (List.map_id _)
    have now : timed.after = 0 :=
      of_decide_eq_true (List.all_eq_true.mp List.all_takeWhile timed early)
    change Timed.mk 0 timed.item = timed
    rw [← now]
  change _ ++ Turn.metAt (byTime _ reply?) = events
  rw [metAt_byTime]
  exact (congrArg (· ++ _) atOnce).trans List.takeWhile_append_dropWhile

end Scheduler

end BusBridge
