import BusBridge.Proofs.Race
import BusBridge.Waiting.Timely

/-!
# When a race is over

With a scheduler that keeps to the time, a race of a call and a wait is over at the later
of the moments at which the two end, or at the moment at which the call fails.  The
moments alone decide: neither ties nor the look that comes first make a difference.
-/

namespace BusBridge

namespace Wait

variable {wait : Wait}

theorem settleTimed_append (first second : List (Timed WaitEvent)) :
    wait.settleTimed (first ++ second) =
      (wait.settleTimed first).or (wait.settleTimed second) :=
  List.findSome?_append

/-- Events of the same moment end the wait at that moment, if they end it. -/
theorem settleTimed_map_mk (moment : Nat) (events : List WaitEvent) :
    wait.settleTimed (events.map (Timed.mk moment)) =
      (wait.settle events).map (Timed.mk moment) := by
  rw [settleTimed, List.findSome?_map, settle, List.map_findSome?]
  rfl

end Wait

namespace Race

/-- How and when a race is over whose call returns and whose wait ends like this, as far
as they do. -/
def joint : Option (Timed Reply) → Option (Timed WaitResult) →
    Option (Timed (Except String CallReport))
  | some ⟨returned, .error reason⟩, _ => some ⟨returned, .error reason⟩
  | some ⟨returned, .ok reply⟩, some ⟨ended, result⟩ =>
    some ⟨max returned ended, .ok ⟨reply, some result⟩⟩
  | _, _ => none

section Joint

variable {reply? : Option (Timed Reply)} {result? : Option (Timed WaitResult)}

theorem map_item_joint (reply? : Option (Timed Reply)) (result? : Option (Timed WaitResult)) :
    (joint reply? result?).map Timed.item =
      (standing (reply?.map Timed.item) (result?.map Timed.item)).result? := by
  rcases reply? with _ | ⟨_, _ | _⟩ <;> cases result? <;> rfl

/-- What comes later does not change the end. -/
theorem joint_or {ending : Timed (Except String CallReport)}
    (joined : joint reply? result? = some ending) (answer? : Option (Timed Reply))
    (settled? : Option (Timed WaitResult)) :
    joint (reply?.or answer?) (result?.or settled?) = some ending := by
  rcases reply? with _ | ⟨_, _ | _⟩ <;> cases result? <;> simp_all [joint]

/-- The race is over at the moment that brings what was missing. -/
theorem after_of_joint_eq_some {moment : Nat} {ending : Timed (Except String CallReport)}
    (unfinished : joint reply? result? = none)
    (replied : ∀ reply ∈ reply?, reply.after ≤ moment)
    (ended : ∀ result ∈ result?, result.after ≤ moment)
    {answer? : Option Reply} {settled? : Option WaitResult}
    (joined : joint (reply?.or (answer?.map (Timed.mk moment)))
      (result?.or (settled?.map (Timed.mk moment))) = some ending) :
    ending.after = moment := by
  cases reply? with
  | none =>
      -- The reply comes now, and an earlier end of the wait does not delay it.
      rcases answer? with _ | (_ | _)
      · cases joined
      · obtain rfl := Option.some.inj joined
        rfl
      · cases result? with
        | none =>
            cases settled? with
            | none => cases joined
            | some settled =>
                obtain rfl := Option.some.inj joined
                exact Nat.max_self moment
        | some result =>
            obtain rfl := Option.some.inj joined
            exact Nat.max_eq_left (ended result rfl)
  | some reply =>
      obtain ⟨returned, _ | values⟩ := reply
      · cases unfinished
      · -- The reply is there already, so that the wait ends now.
        cases result? with
        | some result => cases unfinished
        | none =>
            cases settled? with
            | none => cases joined
            | some settled =>
                obtain rfl := Option.some.inj joined
                exact Nat.max_eq_right (replied _ rfl)

end Joint

section Run

variable {method : String} {wait : Wait} {reply? : Option (Timed Reply)}
  {result? : Option (Timed WaitResult)}

/-- A race that goes on through turns in the order of time is over as the moments of the
reply and of the end of the wait have it. -/
theorem run_standing_eq_joint {turns : List (Timed Turn)} (rising : Timed.Rising turns)
    (unfinished : joint reply? result? = none)
    (replied : ∀ reply ∈ reply?, ∀ turn ∈ turns, reply.after ≤ turn.after)
    (ended : ∀ result ∈ result?, ∀ turn ∈ turns, result.after ≤ turn.after) :
    (run method wait (standing (reply?.map Timed.item) (result?.map Timed.item)) turns).1 =
      joint (reply?.or (Turn.returnedAt turns).head?)
        (result?.or (wait.settleTimed (Turn.metAt turns))) := by
  induction turns generalizing reply? result? with
  | nil =>
      change none = joint (reply?.or none) (result?.or none)
      rw [Option.or_none, Option.or_none, unfinished]
  | cons turn turns ih =>
      obtain ⟨first, rising⟩ := List.pairwise_cons.mp rising
      have answers : (Turn.returnedAt (turn :: turns)).head? =
          (turn.item.reply?.map (Timed.mk turn.after)).or (Turn.returnedAt turns).head? := by
        rw [Turn.returnedAt_cons]
        cases turn.item.reply? <;> rfl
      have settles : wait.settleTimed (Turn.metAt (turn :: turns)) =
          ((wait.settle turn.item.events).map (Timed.mk turn.after)).or
            (wait.settleTimed (Turn.metAt turns)) := by
        rw [Turn.metAt_cons, Wait.settleTimed_append, Wait.settleTimed_map_mk]
      have stepped : (step method wait
          (standing (reply?.map Timed.item) (result?.map Timed.item)) turn.item).1 =
          standing ((reply?.or (turn.item.reply?.map (Timed.mk turn.after))).map Timed.item)
            ((result?.or ((wait.settle turn.item.events).map (Timed.mk turn.after))).map
              Timed.item) := by
        rw [step_standing, Option.map_or, Option.map_or, Option.map_map, Option.map_map]
        simp [Function.comp_def]
      rw [run_cons_fst, stepped, answers, settles, ← Option.or_assoc, ← Option.or_assoc,
        ← map_item_joint]
      cases joined : joint (reply?.or (turn.item.reply?.map (Timed.mk turn.after)))
          (result?.or ((wait.settle turn.item.events).map (Timed.mk turn.after))) with
      | some ending =>
          have moment := after_of_joint_eq_some unfinished
            (fun reply there => replied reply there turn List.mem_cons_self)
            (fun result there => ended result there turn List.mem_cons_self) joined
          rw [joint_or joined, ← moment]
          rfl
      | none =>
          refine ih rising joined ?_ ?_
          · intro reply there later member
            rcases Option.or_eq_some_iff.mp there with old | ⟨-, new⟩
            · exact replied reply old later (List.mem_cons_of_mem _ member)
            · obtain ⟨_, -, rfl⟩ := Option.map_eq_some_iff.mp new
              exact first later member
          · intro result there later member
            rcases Option.or_eq_some_iff.mp there with old | ⟨-, new⟩
            · exact ended result old later (List.mem_cons_of_mem _ member)
            · obtain ⟨_, -, rfl⟩ := Option.map_eq_some_iff.mp new
              exact first later member

/-- On a schedule that keeps to the time, a race is over as the moments of the reply and
of the end of the wait have it. -/
theorem follow_of_timely {events : List (Timed WaitEvent)}
    {schedule : Schedule (events.map Timed.item) (reply?.map Timed.item)}
    (timely : schedule.Timely) :
    (follow method wait schedule).2.1 = joint reply? (wait.settleTimed events) := by
  change (run method wait (look method wait .running (.wait schedule.early)).1
    schedule.turns).1 = _
  have early : standing none (wait.settle schedule.early) =
      standing ((none : Option (Timed Reply)).map Timed.item)
        (((wait.settle schedule.early).map (Timed.mk 0)).map Timed.item) := by
    simp [Function.comp_def]
  rw [look_early, early, run_standing_eq_joint timely.rising rfl (by simp)
    (by simp), timely.returned_in_time, ← Wait.settleTimed_map_mk,
    ← Wait.settleTimed_append, timely.met_in_time, Option.none_or]
  cases reply? <;> rfl

end Run

end Race

end BusBridge
