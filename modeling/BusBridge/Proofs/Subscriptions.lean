import BusBridge.Interface.Nickel
import BusBridge.Proofs.Readings
import BusBridge.Proofs.StepOperations
import Mathlib.Algebra.GroupWithZero.Nat
import Mathlib.Data.List.Perm.Subperm

/-!
# Subscriptions and their owners

Every living subscription of a scripted bus has one owner: an armed wait that is kept, or
the step that is under way.  The count of active subscriptions is the number of the living
ones, and it is lowered only for one of them, so that it never meets its floor.
-/

namespace BusBridge

namespace ScriptedBus

/-- The subscriptions that are alive, in the order in which they were made. -/
def living (bus : ScriptedBus) : List Nat :=
  bus.mailboxes.map Prod.fst

section Living

variable {bus : ScriptedBus}

theorem mem_living_iff {subscription : Nat} :
    subscription ∈ bus.living ↔ bus.isAlive subscription = true := by
  rw [isAlive, mailbox?, living, List.mem_map]
  constructor
  · rintro ⟨entry, member, rfl⟩
    by_contra dead
    rw [Bool.not_eq_true, Option.isSome_eq_false_iff, Option.isNone_iff_eq_none,
      List.lookup_eq_none_iff] at dead
    simpa using dead entry member
  · intro alive
    obtain ⟨mailbox, found⟩ := Option.isSome_iff_exists.mp alive
    obtain ⟨before, after, split, -⟩ := List.lookup_eq_some_iff.mp found
    exact ⟨(subscription, mailbox), by simp [split], rfl⟩

theorem map_fst_changeMailbox (change : Mailbox → Mailbox) (subscription : Nat)
    (mailboxes : List (Nat × Mailbox)) :
    (changeMailbox change subscription mailboxes).map Prod.fst = mailboxes.map Prod.fst := by
  rw [changeMailbox, List.map_map]
  refine List.map_congr_left fun entry _ => ?_
  rw [Function.comp_apply]
  split <;> rfl

theorem living_emit (bus : ScriptedBus) (notification : Notification) :
    (bus.emit notification).living = bus.living := by
  have kept (listeners : List Nat) (mailboxes : List (Nat × Mailbox)) :
      (listeners.foldl (fun mailboxes listener =>
        changeMailbox (·.deliver notification) listener mailboxes) mailboxes).map Prod.fst =
        mailboxes.map Prod.fst := by
    induction listeners generalizing mailboxes with
    | nil => rfl
    | cons listener rest ih => rw [List.foldl_cons, ih, map_fst_changeMailbox]
  exact kept bus.listeners bus.mailboxes

theorem living_release (bus : ScriptedBus) (ended : Nat) :
    (bus.release ended).living = bus.living.filter (· != ended) := by
  rw [living, living, List.filter_map]
  rfl

theorem living_subscribe {subscription : Nat} (made : bus.subscribe.1 = .ok subscription) :
    subscription = bus.subscriptions ∧
      bus.subscribe.2.living = bus.living ++ [bus.subscriptions] ∧
      bus.subscribe.2.active = bus.active + 1 := by
  obtain ⟨⟨reason, refused⟩, -⟩ | ⟨accepted, after⟩ := bus.subscribe_cases
  · rw [refused] at made
    cases made
  · refine ⟨Except.ok.inj (made.symm.trans accepted), ?_, ?_⟩
    · rw [after]
      exact List.map_append
    · rw [after]

theorem living_call (bus : ScriptedBus) (call : MethodCall) :
    (bus.call call).2.living = bus.living ∧ (bus.call call).2.active = bus.active := by
  have sent (signals : List Notification) (bus : ScriptedBus) :
      (signals.foldl emit bus).living = bus.living ∧
        (signals.foldl emit bus).active = bus.active := by
    induction signals generalizing bus with
    | nil => exact ⟨rfl, rfl⟩
    | cons first rest ih =>
        obtain ⟨living, active⟩ := ih (bus.emit first)
        exact ⟨living.trans (bus.living_emit first), active⟩
  exact sent _ (bus.record call)

end Living

/-- The count of active subscriptions is the number of the living ones. -/
structure Counted (bus : ScriptedBus) : Prop where
  kept : bus.Kept
  once : bus.living.Nodup
  active_eq : bus.active = bus.living.length

namespace Counted

variable {bus : ScriptedBus}

theorem of_fresh (script : Script) : (ofScript script).Counted :=
  ⟨kept_ofScript script, List.nodup_nil, rfl⟩

theorem lt_subscriptions (counted : bus.Counted) {subscription : Nat}
    (alive : subscription ∈ bus.living) : subscription < bus.subscriptions :=
  counted.kept.alive_lt subscription (mem_living_iff.mp alive)

theorem fresh (counted : bus.Counted) : bus.subscriptions ∉ bus.living := fun alive =>
  Nat.lt_irrefl _ (counted.lt_subscriptions alive)

theorem active_le (counted : bus.Counted) : bus.active ≤ bus.subscriptions := by
  -- No number is alive twice, and none is alive that was not handed out.
  have known : bus.living ⊆ List.range bus.subscriptions := fun subscription alive =>
    List.mem_range.mpr (counted.lt_subscriptions alive)
  have short := (counted.once.subperm known).length_le
  rw [List.length_range] at short
  rw [counted.active_eq]
  exact short

theorem active_pos (counted : bus.Counted) {subscription : Nat}
    (alive : subscription ∈ bus.living) : 0 < bus.active := by
  rw [counted.active_eq]
  exact List.length_pos_of_mem alive

theorem subscribe (counted : bus.Counted) : bus.subscribe.2.Counted := by
  cases made : bus.subscribe.1 with
  | error reason =>
      obtain ⟨-, same⟩ | ⟨accepted, -⟩ := bus.subscribe_cases
      · rw [same]
        exact counted
      · rw [accepted] at made
        cases made
  | ok subscription =>
      obtain ⟨-, living, active⟩ := living_subscribe made
      refine ⟨counted.kept.subscribe, ?_, ?_⟩
      · rw [living]
        exact counted.once.append (List.nodup_singleton _)
          (List.disjoint_singleton.mpr counted.fresh)
      · rw [living, active, counted.active_eq, List.length_append, List.length_singleton]

theorem call (counted : bus.Counted) (call : MethodCall) : (bus.call call).2.Counted := by
  obtain ⟨living, active⟩ := bus.living_call call
  have called := (leads_callWhile counted.kept call fun _ => []).kept
  rw [callWhile_nil] at called
  refine ⟨called, ?_, ?_⟩
  · rw [living]
    exact counted.once
  · rw [living, active]
    exact counted.active_eq

/-- One living subscription less is one active subscription less. -/
theorem release (counted : bus.Counted) {ended : Nat} (alive : ended ∈ bus.living) :
    (bus.release ended).Counted := by
  refine ⟨counted.kept.release ended, ?_, ?_⟩
  · rw [living_release]
    exact counted.once.filter _
  · change bus.active - 1 = _
    rw [living_release, ← counted.once.erase_eq_filter, List.length_erase_of_mem alive,
      counted.active_eq]

end Counted

end ScriptedBus

namespace BusOperation

def called : BusOperation → List MethodCall
  | .call request _ => [request]
  | _ => []

/-- How many subscriptions an operation may make. -/
def tries : BusOperation → Nat
  | .subscribe => 1
  | _ => 0

/-- At most one subscription is made, and at most one method is called. -/
structure Few (operations : List BusOperation) : Prop where
  tries_le : (operations.map tries).sum ≤ 1
  called_le : (operations.flatMap called).length ≤ 1

/-- An operation that a step of a session may do with a bus: to end a subscription it must
be alive. -/
inductive Fits (bus : ScriptedBus) : BusOperation → Prop
  | subscribe : Fits bus .subscribe
  | call (call : MethodCall) : Fits bus (.call call fun _ => [])
  | drop {subscription : Nat} (alive : subscription ∈ bus.living) : Fits bus (.drop subscription)

end BusOperation

namespace ScriptedBus

/-- Each operation fits the bus on which it is done. -/
inductive Orderly : ScriptedBus → List BusOperation → Prop
  | nil (bus : ScriptedBus) : Orderly bus []
  | cons {bus : ScriptedBus} {operation : BusOperation} {others : List BusOperation}
      (fits : operation.Fits bus) (orderly : Orderly (bus.perform operation).1 others) :
      Orderly bus (operation :: others)

variable {bus : ScriptedBus}

theorem Counted.perform (counted : bus.Counted) {operation : BusOperation}
    (fits : operation.Fits bus) : (bus.perform operation).1.Counted := by
  cases fits with
  | subscribe => exact counted.subscribe
  | call call =>
      have called := counted.call call
      rw [← callWhile_nil] at called
      exact called
  | drop alive => exact counted.release alive

theorem Counted.afterAll (counted : bus.Counted) {operations : List BusOperation}
    (orderly : bus.Orderly operations) : (bus.afterAll operations).Counted := by
  induction orderly with
  | nil bus => exact counted
  | cons fits orderly ih => exact ih (counted.perform fits)

section Records

theorem records_foldl_emit (bus : ScriptedBus) (signals : List (Notification × Nat))
    (ending : Nat → List Nat) :
    let later := signals.foldl
      (fun bus signal => ((ending signal.2).foldl release bus).emit signal.1) bus
    later.introspections = bus.introspections ∧ later.calls = bus.calls ∧
      later.subscriptions = bus.subscriptions := by
  have released (ended : List Nat) (bus : ScriptedBus) :
      (ended.foldl release bus).introspections = bus.introspections ∧
        (ended.foldl release bus).calls = bus.calls ∧
        (ended.foldl release bus).subscriptions = bus.subscriptions := by
    induction ended generalizing bus with
    | nil => exact ⟨rfl, rfl, rfl⟩
    | cons first rest ih => exact ih (bus.release first)
  induction signals generalizing bus with
  | nil => exact ⟨rfl, rfl, rfl⟩
  | cons signal rest ih =>
      obtain ⟨introspections, calls, subscriptions⟩ :=
        ih (((ending signal.2).foldl release bus).emit signal.1)
      obtain ⟨asked, called, made⟩ := released (ending signal.2) bus
      exact ⟨introspections.trans asked, calls.trans called, subscriptions.trans made⟩

theorem records_perform (bus : ScriptedBus) (operation : BusOperation) :
    let later := (bus.perform operation).1
    later.introspections = bus.introspections ∧
      later.calls = bus.calls ++ operation.called ∧
      later.subscriptions ≤ bus.subscriptions + operation.tries := by
  cases operation with
  | subscribe =>
      rw [perform]
      obtain ⟨-, same⟩ | ⟨-, made⟩ := bus.subscribe_cases
      · rw [same]
        exact ⟨rfl, (List.append_nil _).symm, Nat.le_succ _⟩
      · rw [made]
        exact ⟨rfl, (List.append_nil _).symm, Nat.le_refl _⟩
  | call call ending =>
      obtain ⟨introspections, calls, subscriptions⟩ :=
        records_foldl_emit (bus.record call) (bus.script.emitted call.method).zipIdx ending
      exact ⟨introspections, calls, Nat.le_of_eq subscriptions⟩
  | read reader =>
      rw [perform]
      obtain ⟨empty, -⟩ | ⟨mailbox, event, remaining, found, taken, read⟩ :=
        bus.next?_cases reader
      · rw [empty]
        exact ⟨rfl, (List.append_nil _).symm, Nat.le_refl _⟩
      · rw [read]
        exact ⟨rfl, (List.append_nil _).symm, Nat.le_refl _⟩
  | abandon reader =>
      rw [perform]
      obtain ⟨empty, -⟩ | ⟨mailbox, event, remaining, found, taken, read⟩ :=
        bus.next?_cases reader
      · rw [empty]
        exact ⟨rfl, (List.append_nil _).symm, Nat.le_refl _⟩
      · rw [read]
        exact ⟨rfl, (List.append_nil _).symm, Nat.le_refl _⟩
  | drop ended => exact ⟨rfl, (List.append_nil _).symm, Nat.le_refl _⟩

/-- Calls are written down at the end, and subscriptions are made one at a time. -/
theorem records_afterAll (bus : ScriptedBus) (operations : List BusOperation) :
    let later := bus.afterAll operations
    later.introspections = bus.introspections ∧
      later.calls = bus.calls ++ operations.flatMap BusOperation.called ∧
      later.subscriptions ≤ bus.subscriptions + (operations.map BusOperation.tries).sum := by
  induction operations generalizing bus with
  | nil => exact ⟨rfl, (List.append_nil _).symm, Nat.le_refl _⟩
  | cons operation rest ih =>
      obtain ⟨asked, called, made⟩ := bus.records_perform operation
      obtain ⟨introspections, calls, subscriptions⟩ := ih (bus.perform operation).1
      refine ⟨introspections.trans asked, ?_, ?_⟩
      · change ((bus.perform operation).1.afterAll rest).calls = _
        rw [calls, called, List.flatMap_cons, List.append_assoc]
      · change ((bus.perform operation).1.afterAll rest).subscriptions ≤ _
        rw [List.map_cons, List.sum_cons]
        omega

end Records

/-- The operations are in order, and in the end these subscriptions are alive. -/
structure Leaves (bus : ScriptedBus) (operations : List BusOperation) (alive : List Nat) :
    Prop where
  orderly : bus.Orderly operations
  living_eq : (bus.afterAll operations).living = alive

namespace Leaves

variable {operations : List BusOperation} {alive : List Nat}

theorem nil (bus : ScriptedBus) : bus.Leaves [] bus.living :=
  ⟨.nil bus, rfl⟩

theorem cons {operation : BusOperation} (fits : operation.Fits bus)
    (rest : (bus.perform operation).1.Leaves operations alive) :
    bus.Leaves (operation :: operations) alive :=
  ⟨.cons fits rest.orderly, rest.living_eq⟩

theorem drop {ended : Nat} (living : ended ∈ bus.living) :
    bus.Leaves [.drop ended] (bus.living.filter (· != ended)) :=
  ⟨.cons (.drop living) (.nil _), bus.living_release ended⟩

theorem call (request : MethodCall)
    (rest : (bus.call request).2.Leaves operations alive) :
    bus.Leaves (.call request (fun _ => []) :: operations) alive := by
  rw [← callWhile_nil] at rest
  exact .cons (.call request) rest

/-- A subscription that is new on the bus, and then ended, leaves no trace. -/
theorem dropNew (counted : bus.Counted) {subscription : Nat} {later : ScriptedBus}
    (made : bus.subscribe.1 = .ok subscription)
    (same : later.living = bus.subscribe.2.living) :
    later.Leaves [.drop subscription] bus.living := by
  obtain ⟨rfl, living, -⟩ := living_subscribe made
  rw [living] at same
  have alive : bus.subscriptions ∈ later.living := by simp [same]
  have dropped := drop alive
  have others : bus.living.filter (· != bus.subscriptions) = bus.living := by
    rw [List.filter_eq_self]
    intro subscription alive
    simpa using ne_of_mem_of_not_mem alive counted.fresh
  rw [same, List.filter_append, others] at dropped
  simpa using dropped

end Leaves

end ScriptedBus

end BusBridge
