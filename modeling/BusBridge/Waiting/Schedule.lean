import BusBridge.Waiting.Wait

/-!
# The order of a call and of the wait beside it

A program that has called a method and waits for a signal at the same time looks at
both in turns.  When it looks, and at which of the two first, is not up to the program:
a schedule brings the events of the wait and the reply to the call into one order.
-/

namespace BusBridge

/-- A turn, in which the program looks once at the call and once at the wait. -/
structure Turn where
  /-- What the wait meets in this turn. -/
  events : List WaitEvent
  /-- What the call returns with, if it returns in this turn. -/
  reply? : Option Reply
  /-- The call is looked at before the wait. -/
  callFirst : Bool

/-- A look at the call or at the wait, with what is found there. -/
inductive Look
  | call (reply? : Option Reply)
  | wait (events : List WaitEvent)

namespace Turn

def looks (turn : Turn) : List Look :=
  if turn.callFirst then [.call turn.reply?, .wait turn.events]
  else [.wait turn.events, .call turn.reply?]

def ofEvent (event : WaitEvent) : Turn :=
  ⟨[event], none, true⟩

/-- A turn in which the call returns. -/
def ofReply (reply : Reply) : Turn :=
  ⟨[], some reply, true⟩

/-- What the wait meets in a number of turns. -/
def met (turns : List (Timed Turn)) : List WaitEvent :=
  turns.flatMap fun turn => turn.item.events

/-- What the call returns with in a number of turns. -/
def returned (turns : List (Timed Turn)) : List Reply :=
  turns.filterMap fun turn => turn.item.reply?

@[simp]
theorem met_nil : met [] = [] :=
  rfl

@[simp]
theorem met_cons (turn : Timed Turn) (turns : List (Timed Turn)) :
    met (turn :: turns) = turn.item.events ++ met turns :=
  rfl

@[simp]
theorem met_append (first second : List (Timed Turn)) :
    met (first ++ second) = met first ++ met second :=
  List.flatMap_append

@[simp]
theorem returned_nil : returned [] = [] :=
  rfl

@[simp]
theorem returned_cons (turn : Timed Turn) (turns : List (Timed Turn)) :
    returned (turn :: turns) = turn.item.reply?.toList ++ returned turns := by
  cases replies : turn.item.reply? <;> simp [returned, replies]

@[simp]
theorem returned_append (first second : List (Timed Turn)) :
    returned (first ++ second) = returned first ++ returned second :=
  List.filterMap_append

theorem met_map_ofEvent (events : List (Timed WaitEvent)) :
    met (events.map (Timed.map ofEvent)) = events.map Timed.item := by
  induction events with
  | nil => rfl
  | cons first rest ih =>
      rw [List.map_cons, met_cons, ih]
      rfl

theorem returned_map_ofEvent (events : List (Timed WaitEvent)) :
    returned (events.map (Timed.map ofEvent)) = [] := by
  induction events with
  | nil => rfl
  | cons first rest ih =>
      rw [List.map_cons, returned_cons, ih]
      rfl

end Turn

/-- One order of the events of a wait and of the reply to a call, if there is one.
The call is sent at the first look at it; the wait may have been looked at before. -/
structure Schedule (events : List WaitEvent) (reply? : Option Reply) where
  /-- What the wait meets before the call is sent. -/
  early : List WaitEvent
  /-- The turns from the sending of the call on. -/
  turns : List (Timed Turn)
  meets_all : early ++ Turn.met turns = events
  returns_once : Turn.returned turns = reply?.toList

/-- What decides about the order, knowing all that is going to happen and when. -/
def Scheduler : Type :=
  (events : List (Timed WaitEvent)) → (reply? : Option (Timed Reply)) →
    Schedule (events.map Timed.item) (reply?.map Timed.item)

namespace Scheduler

/-- The turns in the order of time.  A reply comes before the events of the same
instant. -/
def byTime (events : List (Timed WaitEvent)) : Option (Timed Reply) → List (Timed Turn)
  | none => events.map (Timed.map Turn.ofEvent)
  | some reply =>
    (events.takeWhile fun timed => timed.after < reply.after).map (Timed.map Turn.ofEvent) ++
      reply.map Turn.ofReply ::
        (events.dropWhile fun timed => timed.after < reply.after).map (Timed.map Turn.ofEvent)

theorem met_byTime (events : List (Timed WaitEvent)) (reply? : Option (Timed Reply)) :
    Turn.met (byTime events reply?) = events.map Timed.item := by
  cases reply? with
  | none => exact Turn.met_map_ofEvent events
  | some reply =>
      rw [byTime, Turn.met_append, Turn.met_cons, Turn.met_map_ofEvent, Turn.met_map_ofEvent]
      change _ ++ ([] ++ _) = _
      rw [List.nil_append, ← List.map_append, List.takeWhile_append_dropWhile]

theorem returned_byTime (events : List (Timed WaitEvent)) (reply? : Option (Timed Reply)) :
    Turn.returned (byTime events reply?) = (reply?.map Timed.item).toList := by
  cases reply? with
  | none => exact Turn.returned_map_ofEvent events
  | some reply =>
      rw [byTime, Turn.returned_append, Turn.returned_cons, Turn.returned_map_ofEvent,
        Turn.returned_map_ofEvent]
      rfl

/-- Everything happens at its time.  The call is looked at first. -/
def callFirst : Scheduler := fun events reply? =>
  { early := []
    turns := byTime events reply?
    meets_all := met_byTime events reply?
    returns_once := returned_byTime events reply? }

/-- Everything happens at its time.  The wait is looked at first, so that it meets what is
there at once before the call is sent. -/
def waitFirst : Scheduler := fun events reply? =>
  { early := (events.takeWhile fun timed => timed.after = 0).map Timed.item
    turns := byTime (events.dropWhile fun timed => timed.after = 0) reply?
    meets_all := by
      rw [met_byTime, ← List.map_append, List.takeWhile_append_dropWhile]
    returns_once := returned_byTime _ reply? }

end Scheduler

namespace Schedule

variable {events : List WaitEvent} {reply? : Option Reply}

def upTo (schedule : Schedule events reply?) (count : Nat) :
    Schedule (schedule.early ++ Turn.met (schedule.turns.take count))
      (Turn.returned (schedule.turns.take count)).head? where
  early := schedule.early
  turns := schedule.turns.take count
  meets_all := rfl
  returns_once := by
    have whole : Turn.returned (schedule.turns.take count) ++
        Turn.returned (schedule.turns.drop count) = reply?.toList := by
      rw [← Turn.returned_append, List.take_append_drop, schedule.returns_once]
    have short : (Turn.returned (schedule.turns.take count)).length ≤ 1 := by
      have lengths := congrArg List.length whole
      rw [List.length_append] at lengths
      have := Option.length_toList_le (o := reply?)
      omega
    match Turn.returned (schedule.turns.take count), short with
    | [], _ => rfl
    | [_], _ => rfl

end Schedule

end BusBridge
