import BusBridge.Waiting.Race

/-!
# Where a race stands

How far a call and the wait beside it have come depends only on what the call returned
with and on how the wait ended, not on the order in which the program came to see it.
A look, a turn and a whole run therefore have closed forms, whichever of the two was
looked at first.
-/

namespace BusBridge

namespace Look

/-- What the call returns with at this look. -/
def reply? : Look → Option Reply
  | call reply? => reply?
  | wait _ => none

def events : Look → List WaitEvent
  | call _ => []
  | wait events => events

end Look

namespace Wait

@[simp]
theorem settle_nil (wait : Wait) : wait.settle [] = none :=
  rfl

@[simp]
theorem settle_append (wait : Wait) (first second : List WaitEvent) :
    wait.settle (first ++ second) = (wait.settle first).or (wait.settle second) :=
  List.findSome?_append

theorem map_item_settleTimed (wait : Wait) (events : List (Timed WaitEvent)) :
    (wait.settleTimed events).map Timed.item = wait.settle (events.map Timed.item) := by
  rw [settleTimed, List.map_findSome?, settle, List.findSome?_map]
  congr 1
  funext timed
  cases reaction : wait.react timed.item <;> simp [reaction]

end Wait

namespace Race

/-- The state of a race in which the call returned with `reply?` and the wait ended
with `result?`, as far as they did. -/
def standing : Option Reply → Option WaitResult → Race
  | some (.error reason), _ => .finished (.error reason)
  | some (.ok reply), some result => .finished (.ok ⟨reply, some result⟩)
  | some (.ok reply), none => .replied reply
  | none, some result => .waited result
  | none, none => .running

section Closed

variable {method : String} {wait : Wait} {reply? : Option Reply} {result? : Option WaitResult}

theorem look_standing (found : Look) :
    (look method wait (standing reply? result?) found).1 =
      standing (reply?.or found.reply?) (result?.or (wait.settle found.events)) := by
  cases found with
  | call answer? =>
      rw [Look.reply?, Look.events, Wait.settle_nil, Option.or_none]
      rcases answer? with _ | (_ | _) <;> rcases reply? with _ | (_ | _) <;>
        cases result? <;> rfl
  | wait events =>
      rw [Look.reply?, Look.events, Option.or_none]
      cases settled : wait.settle events <;> rcases reply? with _ | (_ | _) <;>
        cases result? <;> simp [look, standing, settled]

/-- Whichever is looked at first, a turn takes up its reply and its events. -/
theorem step_standing (turn : Turn) :
    (step method wait (standing reply? result?) turn).1 =
      standing (reply?.or turn.reply?) (result?.or (wait.settle turn.events)) := by
  cases first : turn.callFirst with
  | true =>
      simp only [step, Turn.looks, first, if_true, lookAll]
      rw [look_standing, look_standing]
      simp [Look.reply?, Look.events]
  | false =>
      simp only [step, Turn.looks, first, Bool.false_eq_true, if_false, lookAll]
      rw [look_standing, look_standing]
      simp [Look.reply?, Look.events]

/-- A race that is over stays as it is. -/
theorem result?_standing_or {result : Except String CallReport}
    (finished : (standing reply? result?).result? = some result)
    (answer? : Option Reply) (settled? : Option WaitResult) :
    (standing (reply?.or answer?) (result?.or settled?)).result? = some result := by
  rcases reply? with _ | (_ | _) <;> cases result? <;>
    simp_all [standing, Race.result?]

theorem run_cons_fst (race : Race) (turn : Timed Turn) (turns : List (Timed Turn)) :
    (run method wait race (turn :: turns)).1 =
      match (step method wait race turn.item).1.result? with
      | some result => some ⟨turn.after, result⟩
      | none => (run method wait (step method wait race turn.item).1 turns).1 := by
  rw [run]
  cases finished : (step method wait race turn.item).1.result? <;> simp [finished]

theorem standing_cons (turn : Timed Turn) (turns : List (Timed Turn)) :
    standing (reply?.or (Turn.returned (turn :: turns)).head?)
        (result?.or (wait.settle (Turn.met (turn :: turns)))) =
      standing ((reply?.or turn.item.reply?).or (Turn.returned turns).head?)
        ((result?.or (wait.settle turn.item.events)).or (wait.settle (Turn.met turns))) := by
  cases answer : turn.item.reply? <;> simp [answer, Option.or_assoc]

/-- The result of a run is the one at which the race stands after all its turns. -/
theorem run_standing (turns : List (Timed Turn))
    (unfinished : (standing reply? result?).result? = none) :
    (run method wait (standing reply? result?) turns).1.map Timed.item =
      (standing (reply?.or (Turn.returned turns).head?)
        (result?.or (wait.settle (Turn.met turns)))).result? := by
  induction turns generalizing reply? result? with
  | nil => simpa [run] using unfinished.symm
  | cons turn turns ih =>
      rw [standing_cons, run_cons_fst, step_standing]
      cases finished : (standing (reply?.or turn.item.reply?)
          (result?.or (wait.settle turn.item.events))).result? with
      | none => exact ih finished
      | some result => simp [result?_standing_or finished]

/-- A run ends with the turn after which the race stands at a result, if it did not
before that turn. -/
theorem run_ends_with_turn {turns further : List (Timed Turn)} {turn : Timed Turn}
    {result : Except String CallReport}
    (unfinished : (standing (reply?.or (Turn.returned turns).head?)
      (result?.or (wait.settle (Turn.met turns)))).result? = none)
    (finished : (standing (reply?.or (Turn.returned (turns ++ [turn])).head?)
      (result?.or (wait.settle (Turn.met (turns ++ [turn]))))).result? = some result) :
    (run method wait (standing reply? result?) (turns ++ turn :: further)).1 =
      some ⟨turn.after, result⟩ := by
  induction turns generalizing reply? result? with
  | nil =>
      rw [List.nil_append, standing_cons] at finished
      rw [List.nil_append, run_cons_fst, step_standing]
      simp only [Turn.returned_nil, Turn.met_nil, List.head?_nil, Wait.settle_nil,
        Option.or_none] at finished
      simp [finished]
  | cons first turns ih =>
      rw [standing_cons] at unfinished
      rw [List.cons_append, standing_cons] at finished
      rw [List.cons_append, run_cons_fst, step_standing]
      cases early : (standing (reply?.or first.item.reply?)
          (result?.or (wait.settle first.item.events))).result? with
      | none => exact ih unfinished finished
      | some before =>
          -- The race would be finished after the first turn, and stay so.
          rw [result?_standing_or early] at unfinished
          exact absurd unfinished (Option.some_ne_none before)

end Closed

section Follow

variable {method : String} {wait : Wait} {events : List WaitEvent} {reply? : Option Reply}

theorem result?_standing_none (result? : Option WaitResult) :
    (standing none result?).result? = none := by
  cases result? <;> rfl

theorem look_early (schedule : Schedule events reply?) :
    (look method wait .running (.wait schedule.early)).1 =
      standing none (wait.settle schedule.early) := by
  change (look method wait (standing none none) (.wait schedule.early)).1 = _
  rw [look_standing]
  rfl

/-- In whatever order a schedule puts them, the race comes out as the reply and the
events of the wait have it. -/
theorem follow_ending (schedule : Schedule events reply?) :
    (follow method wait schedule).2.1.map Timed.item =
      (standing reply? (wait.settle events)).result? := by
  change (run method wait (look method wait .running (.wait schedule.early)).1
    schedule.turns).1.map Timed.item = _
  rw [look_early, run_standing _ (result?_standing_none _), schedule.returns_once,
    ← Wait.settle_append, schedule.meets_all]
  cases reply? <;> rfl

/-- The race ends at the time of the turn that brings what was still missing. -/
theorem follow_ends_with_turn {schedule : Schedule events reply?}
    {turns further : List (Timed Turn)} {turn : Timed Turn} {result : Except String CallReport}
    (split : schedule.turns = turns ++ turn :: further)
    (unfinished : (standing (Turn.returned turns).head?
      (wait.settle (schedule.early ++ Turn.met turns))).result? = none)
    (finished : (standing (Turn.returned (turns ++ [turn])).head?
      (wait.settle (schedule.early ++ Turn.met (turns ++ [turn])))).result? = some result) :
    (follow method wait schedule).2.1 = some ⟨turn.after, result⟩ := by
  change (run method wait (look method wait .running (.wait schedule.early)).1
    schedule.turns).1 = _
  rw [Wait.settle_append] at unfinished finished
  rw [look_early, split]
  exact run_ends_with_turn unfinished finished

end Follow

end Race

end BusBridge
