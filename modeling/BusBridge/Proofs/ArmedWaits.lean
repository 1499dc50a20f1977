import BusBridge.Proofs.StepOperations
import BusBridge.Proofs.Subscriptions

/-!
# The owners of the subscriptions

A session that is taken through steps holds a subscription for each armed wait that is
kept, and for no other reason.  A wait and a call beside a wait end their own one however
they end, and also when they are given up on the way.
-/

namespace BusBridge

namespace Session

variable {session : Session ScriptedBus} {bus : ScriptedBus}

theorem leaves_callOperations (method : String) (tokens : List String) :
    bus.Leaves (session.callOperations method tokens) bus.living := by
  rw [callOperations]
  cases session.prepare method tokens with
  | error error => exact .nil bus
  | ok prepared =>
      have called := ScriptedBus.Leaves.nil (bus.call (methodCall prepared)).2
      rw [(bus.living_call (methodCall prepared)).1] at called
      exact .call (methodCall prepared) called

theorem leaves_refused {reason : String} (refused : bus.subscribe.1 = .error reason) :
    bus.Leaves [.subscribe] bus.living := by
  obtain ⟨-, same⟩ | ⟨accepted, -⟩ := bus.subscribe_cases
  · refine ⟨.cons .subscribe (.nil _), ?_⟩
    exact congrArg ScriptedBus.living same
  · rw [accepted] at refused
    cases refused

/-- What is done with a new subscription decides what an arming leaves behind. -/
theorem leaves_armOperations {signals : SignalSet} {further : Nat → List BusOperation}
    (goes : ∀ subscription, bus.subscribe.1 = .ok subscription →
      bus.subscribe.2.Leaves (further subscription) bus.living) :
    bus.Leaves (session.armOperations bus signals further) bus.living := by
  rw [armOperations]
  cases session.validate signals with
  | error error => exact .nil bus
  | ok =>
      cases made : bus.subscribe.1 with
      | error reason => exact leaves_refused made
      | ok subscription => exact .cons .subscribe (goes subscription made)

theorem leaves_callBesideOperations (counted : bus.Counted) (method : String)
    (tokens : List String) (signals : SignalSet) :
    bus.Leaves (session.callBesideOperations bus method tokens signals) bus.living := by
  rw [callBesideOperations]
  cases signals.isEmpty with
  | true => exact leaves_callOperations method tokens
  | false =>
      rw [if_neg Bool.false_ne_true]
      cases session.prepare method tokens with
      | error error => exact .nil bus
      | ok prepared =>
          refine leaves_armOperations fun subscription made => ?_
          have called := bus.subscribe.2.living_call (methodCall prepared)
          exact .call (methodCall prepared) (.dropNew counted made called.1)

theorem few_callOperations (method : String) (tokens : List String) :
    BusOperation.Few (session.callOperations method tokens) := by
  rw [callOperations]
  cases session.prepare method tokens with
  | error error => exact ⟨Nat.zero_le _, Nat.zero_le _⟩
  | ok prepared => exact ⟨Nat.zero_le _, Nat.le_refl _⟩

/-- An arming makes one subscription, and the rest is what is done with it. -/
theorem few_armOperations {signals : SignalSet} {further : Nat → List BusOperation}
    (silent : ∀ subscription, ((further subscription).map BusOperation.tries).sum = 0)
    (few : ∀ subscription, ((further subscription).flatMap BusOperation.called).length ≤ 1) :
    BusOperation.Few (session.armOperations bus signals further) := by
  rw [armOperations]
  cases session.validate signals with
  | error error => exact ⟨Nat.zero_le _, Nat.zero_le _⟩
  | ok =>
      cases bus.subscribe.1 with
      | error reason => exact ⟨Nat.le_refl _, Nat.zero_le _⟩
      | ok subscription =>
          refine ⟨?_, few subscription⟩
          rw [List.map_cons, List.sum_cons, silent]
          exact Nat.le_refl _

theorem few_callBesideOperations (method : String) (tokens : List String)
    (signals : SignalSet) :
    BusOperation.Few (session.callBesideOperations bus method tokens signals) := by
  rw [callBesideOperations]
  cases signals.isEmpty with
  | true => exact few_callOperations method tokens
  | false =>
      rw [if_neg Bool.false_ne_true]
      cases session.prepare method tokens with
      | error error => exact ⟨Nat.zero_le _, Nat.zero_le _⟩
      | ok prepared => exact few_armOperations (fun _ => rfl) fun _ => Nat.le_refl _

end Session

namespace ScriptedBus

/-- Subscriptions are ended as on a scripted bus while they are alive and counted. -/
def EndsLiving (ended : Nat → ScriptedBus → ScriptedBus) : Prop :=
  ∀ subscription bus, bus.isAlive subscription = true → 0 < bus.active →
    ended subscription bus = bus.release subscription

/-- Nothing but living subscriptions is ended in an orderly run. -/
theorem Orderly.afterAllBy_eq {ended : Nat → ScriptedBus → ScriptedBus} (ends : EndsLiving ended)
    {bus : ScriptedBus} {operations : List BusOperation} (counted : bus.Counted)
    (orderly : bus.Orderly operations) :
    bus.afterAllBy ended operations = bus.afterAll operations := by
  induction orderly with
  | nil bus => rfl
  | @cons bus operation others fits orderly ih =>
      have same : bus.performBy ended operation = (bus.perform operation).1 := by
        cases fits with
        | subscribe => rfl
        | call call => rfl
        | drop alive => exact ends _ _ (mem_living_iff.mp alive) (counted.active_pos alive)
      change (bus.performBy ended operation).afterAllBy ended others = _
      rw [same]
      exact ih (counted.perform fits)

end ScriptedBus

namespace Rehearsal

variable {rehearsal before after : Rehearsal}

/-- The subscriptions of the armed waits that are kept. -/
def held (armed : List (String × ArmedWait)) : List Nat :=
  armed.map (·.2.subscription)

/-- Every subscription that is alive belongs to one of the armed waits that are kept. -/
structure Balanced (rehearsal : Rehearsal) : Prop where
  scripted : rehearsal.session.bus = ScriptedBus.bus
  counted : rehearsal.connection.bus.Counted
  living_eq : rehearsal.connection.bus.living = held rehearsal.armed
  named_once : (rehearsal.armed.map Prod.fst).Nodup

theorem filter_held {armed : List (String × ArmedWait)} (named : (armed.map Prod.fst).Nodup)
    (once : (held armed).Nodup) {name : String} {wait : ArmedWait}
    (kept : (name, wait) ∈ armed) :
    (held armed).filter (· != wait.subscription) =
      held (armed.filter fun entry => entry.1 != name) := by
  rw [held, List.filter_map, held]
  congr 1
  refine List.filter_congr fun entry member => ?_
  -- Neither a name nor a number occurs twice, so that both tell the same wait.
  have by_number (same : entry.2.subscription = wait.subscription) : entry = (name, wait) :=
    List.inj_on_of_nodup_map once member kept same
  have by_name (same : entry.1 = name) : entry = (name, wait) :=
    List.inj_on_of_nodup_map named member kept same
  rw [Function.comp_apply, Bool.eq_iff_iff, bne_iff_ne, bne_iff_ne, not_iff_not]
  exact ⟨fun same => congrArg Prod.fst (by_number same),
    fun same => congrArg (·.2.subscription) (by_name same)⟩

theorem mem_of_armed? {name : String} {wait : ArmedWait}
    (found : rehearsal.armed? name = some wait) : (name, wait) ∈ rehearsal.armed := by
  obtain ⟨before, after, split, -⟩ := List.lookup_eq_some_iff.mp found
  simp [split]

namespace Balanced

variable (balanced : rehearsal.Balanced)

include balanced

/-- Ending the subscription of one name leaves those of the others, and any further ones
on the bus. -/
theorem leaves_dropOperations (name : String) {bus : ScriptedBus} {further : List Nat}
    (living : bus.living = held rehearsal.armed ++ further) (once : bus.living.Nodup) :
    bus.Leaves (rehearsal.dropOperations name) (held (rehearsal.others name) ++ further) := by
  rw [dropOperations]
  cases found : rehearsal.armed? name with
  | none =>
      rw [others_of_armed?_eq_none found, ← living]
      exact .nil bus
  | some wait =>
      have kept := mem_of_armed? found
      have mine : wait.subscription ∈ held rehearsal.armed :=
        List.mem_map_of_mem (f := fun entry => entry.2.subscription) kept
      have alive : wait.subscription ∈ bus.living := by simp [living, mine]
      have dropped := ScriptedBus.Leaves.drop alive
      rw [living] at once dropped
      obtain ⟨held_once, -, apart⟩ := List.nodup_append.mp once
      have unharmed : further.filter (· != wait.subscription) = further := by
        rw [List.filter_eq_self]
        intro other member
        simpa using (apart _ mine _ member).symm
      rw [List.filter_append, filter_held balanced.named_once held_once kept, unharmed] at dropped
      exact dropped

theorem leaves_operations (step : RehearsalStep) :
    rehearsal.connection.bus.Leaves (rehearsal.operations step)
      (held (rehearsal.keptAfter step)) := by
  have counted := balanced.counted
  have living := balanced.living_eq
  have dropped (name : String) : rehearsal.connection.bus.Leaves (rehearsal.dropOperations name)
      (held (rehearsal.others name)) := by
    have alone : rehearsal.connection.bus.living = held rehearsal.armed ++ [] := by
      rw [living, List.append_nil]
    have left := balanced.leaves_dropOperations name alone counted.once
    rwa [List.append_nil] at left
  cases step with
  | invoke method tokens =>
      exact living ▸ Session.leaves_callOperations method tokens
  | wait signals limit =>
      refine living ▸ Session.leaves_armOperations fun subscription made => ?_
      exact .dropNew counted made rfl
  | invokeAndWait method tokens signals limit =>
      exact living ▸ Session.leaves_callBesideOperations counted method tokens signals
  | validate signals => exact living ▸ .nil _
  | prepare method tokens => exact living ▸ .nil _
  | sleep milliseconds => exact living ▸ .nil _
  | waitArmed name limit => exact dropped name
  | drop name => exact dropped name
  | arm name signals =>
      rw [operations, Session.armOperations, keptAfter]
      cases rehearsal.session.validate signals with
      | error error => exact living ▸ .nil _
      | ok =>
          cases made : rehearsal.connection.bus.subscribe.1 with
          | error reason => exact living ▸ Session.leaves_refused made
          | ok subscription =>
              -- The new subscription is made before the old one of the name is ended, so
              -- that it stands beside all that were held.
              obtain ⟨rfl, grown, -⟩ := ScriptedBus.living_subscribe made
              rw [living] at grown
              have left := balanced.leaves_dropOperations name grown counted.subscribe.once
              rw [held, List.map_append]
              exact .cons .subscribe left

theorem nodup_keptAfter (step : RehearsalStep) :
    ((rehearsal.keptAfter step).map Prod.fst).Nodup := by
  have named := balanced.named_once
  have without (name : String) : ((rehearsal.others name).map Prod.fst).Nodup :=
    named.sublist (List.filter_sublist.map _)
  cases step with
  | waitArmed name limit => exact without name
  | drop name => exact without name
  | arm name signals =>
      rw [keptAfter]
      cases rehearsal.session.validate signals with
      | error error => exact named
      | ok =>
          cases rehearsal.connection.bus.subscribe.1 with
          | error reason => exact named
          | ok subscription =>
              rw [List.map_append]
              refine (without name).append (List.nodup_singleton _) ?_
              rw [List.map_singleton, List.disjoint_singleton]
              intro again
              obtain ⟨entry, member, same⟩ := List.mem_map.mp again
              simpa [same] using (List.mem_filter.mp member).2
  | _ => exact named

theorem took {step : RehearsalStep} (took : rehearsal.Took (flip ScriptedBus.release) step after) :
    after.Balanced := by
  have left := balanced.leaves_operations step
  have performed := took.bus_eq
  rw [ScriptedBus.afterAllBy_release] at performed
  refine ⟨?_, ?_, ?_, ?_⟩
  · rw [took.session_eq]
    exact balanced.scripted
  · rw [performed]
    exact balanced.counted.afterAll left.orderly
  · rw [performed, took.armed_eq]
    exact left.living_eq
  · rw [took.armed_eq]
    exact balanced.nodup_keptAfter step

theorem took_stepWithin (step : RehearsalStep) (patience : Nat) :
    rehearsal.Took (flip ScriptedBus.release) step (rehearsal.stepWithin step patience).2 :=
  Rehearsal.took_stepWithin (balanced.scripted.trans ScriptedBus.bus_eq_endingBy) step patience

theorem afterAll (steps : List (RehearsalStep × Nat)) : (rehearsal.afterAll steps).Balanced := by
  induction steps generalizing rehearsal with
  | nil => exact balanced
  | cons step rest ih => exact ih (balanced.took (balanced.took_stepWithin step.1 step.2))

end Balanced

theorem silent_dropOperations (name : String) :
    ((rehearsal.dropOperations name).map BusOperation.tries).sum = 0 ∧
      (rehearsal.dropOperations name).flatMap BusOperation.called = [] := by
  rw [dropOperations]
  cases rehearsal.armed? name <;> exact ⟨rfl, rfl⟩

theorem few_operations (step : RehearsalStep) : BusOperation.Few (rehearsal.operations step) := by
  have dropped (name : String) : BusOperation.Few (rehearsal.dropOperations name) := by
    obtain ⟨silent, none⟩ := rehearsal.silent_dropOperations name
    exact ⟨by rw [silent]; exact Nat.zero_le _, by rw [none]; exact Nat.zero_le _⟩
  cases step with
  | invoke method tokens => exact Session.few_callOperations method tokens
  | wait signals limit => exact Session.few_armOperations (fun _ => rfl) fun _ => Nat.zero_le _
  | invokeAndWait method tokens signals limit =>
      exact Session.few_callBesideOperations method tokens signals
  | arm name signals =>
      obtain ⟨silent, -⟩ := rehearsal.silent_dropOperations name
      exact Session.few_armOperations (fun _ => silent) fun _ => (dropped name).called_le
  | waitArmed name limit => exact dropped name
  | drop name => exact dropped name
  | validate signals => exact ⟨Nat.zero_le _, Nat.zero_le _⟩
  | prepare method tokens => exact ⟨Nat.zero_le _, Nat.zero_le _⟩
  | sleep milliseconds => exact ⟨Nat.zero_le _, Nat.zero_le _⟩

theorem start_eq_ok {script : Script} {target : Target} {connection : Connection ScriptedBus}
    (opened : start script target = (.ok rehearsal, connection)) :
    rehearsal.session.bus = ScriptedBus.bus ∧
      rehearsal.connection.bus = (ScriptedBus.ofScript script).introspect.2 ∧
      rehearsal.armed = [] := by
  rw [start] at opened
  have lookup := Session.bus_resolve ScriptedBus.bus .callFirst target
    (.start (ScriptedBus.ofScript script))
  split at opened
  · next session ready resolved =>
      obtain ⟨same, -⟩ := Prod.mk.inj opened
      obtain rfl := Except.ok.inj same
      rw [resolved] at lookup
      exact ⟨Session.bus_of_resolve (congrArg Prod.fst resolved), lookup, rfl⟩
  · cases (Prod.mk.inj opened).1

theorem balanced_scheduledBy {script : Script} {target : Target}
    {connection : Connection ScriptedBus}
    (opened : start script target = (.ok rehearsal, connection)) (scheduler : Scheduler) :
    (rehearsal.scheduledBy scheduler).Balanced := by
  obtain ⟨scripted, fresh, idle⟩ := start_eq_ok opened
  have counted := ScriptedBus.Counted.of_fresh script
  refine ⟨scripted, ?_, ?_, ?_⟩
  · change rehearsal.connection.bus.Counted
    rw [fresh]
    exact ⟨counted.kept.introspect, counted.once, counted.active_eq⟩
  · change rehearsal.connection.bus.living = held rehearsal.armed
    rw [fresh, idle]
    rfl
  · change (rehearsal.armed.map Prod.fst).Nodup
    rw [idle]
    exact List.nodup_nil

theorem Balanced.introspections_afterAll (balanced : rehearsal.Balanced)
    (steps : List (RehearsalStep × Nat)) :
    (rehearsal.afterAll steps).connection.bus.introspections =
      rehearsal.connection.bus.introspections := by
  induction steps generalizing rehearsal with
  | nil => rfl
  | cons step rest ih =>
      have took := balanced.took_stepWithin step.1 step.2
      have asked := rehearsal.connection.bus.records_afterAll (rehearsal.operations step.1)
      have later := ih (balanced.took took)
      rw [took.bus_eq, ScriptedBus.afterAllBy_release] at later
      exact later.trans asked.1

/-- The same rehearsal on a bus where subscriptions are ended in this way. -/
def endingBy (rehearsal : Rehearsal) (ended : Nat → ScriptedBus → ScriptedBus) : Rehearsal :=
  { rehearsal with session := { rehearsal.session with bus := ScriptedBus.endingBy ended } }

/-- Two rehearsals have come equally far, whatever their buses do with subscriptions. -/
structure Mirrors (first second : Rehearsal) : Prop where
  interface_eq : first.session.interface = second.session.interface
  bus_eq : first.connection.bus = second.connection.bus
  armed_eq : first.armed = second.armed

namespace Mirrors

variable {first second : Rehearsal} (mirrors : first.Mirrors second)

include mirrors

theorem step_eq (step : RehearsalStep) :
    first.operations step = second.operations step ∧
      first.keptAfter step = second.keptAfter step := by
  obtain ⟨⟨_, _, interface, _⟩, ⟨bus, _, _⟩, armed⟩ := first
  obtain ⟨⟨_, _, interface', _⟩, ⟨bus', _, _⟩, armed'⟩ := second
  obtain rfl : interface = interface' := mirrors.interface_eq
  obtain rfl : bus = bus' := mirrors.bus_eq
  obtain rfl : armed = armed' := mirrors.armed_eq
  cases step <;> exact ⟨rfl, rfl⟩

theorem afterAll (balanced : second.Balanced) {ended : Nat → ScriptedBus → ScriptedBus}
    (ends : ScriptedBus.EndsLiving ended)
    (scripted : first.session.bus = ScriptedBus.endingBy ended)
    (steps : List (RehearsalStep × Nat)) :
    (first.afterAll steps).Mirrors (second.afterAll steps) := by
  induction steps generalizing first second with
  | nil => exact mirrors
  | cons step rest ih =>
      have taken := Rehearsal.took_stepWithin scripted step.1 step.2
      have took := balanced.took_stepWithin step.1 step.2
      obtain ⟨operations, kept⟩ := mirrors.step_eq step.1
      refine ih ⟨?_, ?_, ?_⟩ (balanced.took took) (taken.session_eq ▸ scripted)
      · rw [taken.session_eq, took.session_eq]
        exact mirrors.interface_eq
      · have orderly := (balanced.leaves_operations step.1).orderly
        rw [taken.bus_eq, took.bus_eq, operations, mirrors.bus_eq,
          ScriptedBus.afterAllBy_release]
        exact orderly.afterAllBy_eq ends balanced.counted
      · rw [taken.armed_eq, took.armed_eq]
        exact kept

end Mirrors

/-- No subscription leaks.  After any steps of a session, whether they succeeded, failed
or were given up while they waited, the active subscriptions are those of the armed waits
that are kept, one for each.  One step more makes at most one subscription and one call.
The count never has to be cut off: it makes no difference what the bus does when it is to
end a subscription that is not alive or not counted. -/
theorem subscriptions_have_owners {script : Script} {target : Target}
    {rehearsal : Rehearsal} {connection : Connection ScriptedBus}
    (opened : start script target = (.ok rehearsal, connection)) (scheduler : Scheduler)
    (steps : List (RehearsalStep × Nat)) (step : RehearsalStep) (patience : Nat) :
    let opening := rehearsal.scheduledBy scheduler
    let before := opening.afterAll steps
    let bus := before.connection.bus
    let after := (before.stepWithin step patience).2
    let later := after.connection.bus
    (bus.active = before.armed.length ∧ later.active = after.armed.length) ∧
      (∀ subscription, bus.isAlive subscription = true ↔
        ∃ entry ∈ before.armed, entry.2.subscription = subscription) ∧
      (bus.introspections = 1 ∧ later.introspections = 1) ∧
      (bus.active ≤ bus.subscriptions ∧ later.active ≤ later.subscriptions) ∧
      (bus.subscriptions ≤ later.subscriptions ∧ later.subscriptions ≤ bus.subscriptions + 1) ∧
      (bus.calls <+: later.calls ∧ later.calls.length ≤ bus.calls.length + 1) ∧
      ((before.stepWithin step patience).1 = none → ∃ paused,
        before.pause? step = some paused ∧ after = paused.abandon patience) ∧
      ∀ ended : Nat → ScriptedBus → ScriptedBus,
        (∀ subscription bus, bus.isAlive subscription = true → 0 < bus.active →
          ended subscription bus = bus.release subscription) →
        ((opening.endingBy ended).afterAll (steps ++ [(step, patience)])).connection.bus =
          later := by
  intro opening before bus after later
  have start : opening.Balanced := balanced_scheduledBy opened scheduler
  have balanced : before.Balanced := start.afterAll steps
  have took : before.Took (flip ScriptedBus.release) step after :=
    balanced.took_stepWithin step patience
  have still : after.Balanced := balanced.took took
  have owned {rehearsal : Rehearsal} (balanced : rehearsal.Balanced) :
      rehearsal.connection.bus.active = rehearsal.armed.length := by
    rw [balanced.counted.active_eq, balanced.living_eq, held, List.length_map]
  have once : bus.introspections = 1 := by
    obtain ⟨-, fresh, -⟩ := start_eq_ok opened
    rw [start.introspections_afterAll]
    change rehearsal.connection.bus.introspections = 1
    rw [fresh]
    rfl
  have performed : later = bus.afterAll (before.operations step) :=
    took.bus_eq.trans (bus.afterAllBy_release _)
  obtain ⟨asked, called, made⟩ := bus.records_afterAll (before.operations step)
  obtain ⟨tries, calls⟩ := before.few_operations step
  have grown := (ScriptedBus.leads_afterAll balanced.counted.kept
    (before.operations step)).subscriptions
  rw [← performed] at asked called made grown
  refine ⟨⟨owned balanced, owned still⟩, ?_, ⟨once, asked.trans once⟩,
    ⟨balanced.counted.active_le, still.counted.active_le⟩, ⟨grown, ?_⟩, ⟨?_, ?_⟩,
    paused_of_given_up, ?_⟩
  · intro subscription
    rw [← ScriptedBus.mem_living_iff, balanced.living_eq, held, List.mem_map]
  · exact Nat.le_trans made (Nat.add_le_add_left tries _)
  · rw [called]
    exact List.prefix_append _ _
  · rw [called, List.length_append]
    exact Nat.add_le_add_left calls _
  · intro ended ends
    have same : (opening.endingBy ended).Mirrors opening := ⟨rfl, rfl, rfl⟩
    have whole : opening.afterAll (steps ++ [(step, patience)]) = after := by
      rw [Rehearsal.afterAll, List.foldl_append]
      rfl
    rw [(same.afterAll start ends rfl (steps ++ [(step, patience)])).bus_eq, whole]

/-- A call that is given up beside a wait ends the subscription of that wait and keeps the
one that was armed before; the armed wait ends its own when its limit is reached. -/
theorem abandoned_call_keeps_armed_wait :
    let script : Script := { Script.publishing [Interface.nickel] with replyDelay := 5000 }
    let opening := start script Target.nickel
    ∃ rehearsal, opening = (.ok rehearsal, opening.2) ∧
      let done : SignalSet := .ofList ["pfmDoneProcessing"]
      let steps : List (RehearsalStep × Nat) :=
        [(.arm "scan" done, 0), (.invokeAndWait "pfmRescanBooks" [] done (.ofSeconds 9), 1000)]
      let before := (rehearsal.scheduledBy .callFirst).afterAll steps
      let after := (before.stepWithin (.waitArmed "scan" (.ofSeconds 3)) 4000).2
      before.connection.bus.active = 1 ∧ before.connection.bus.subscriptions = 2 ∧
        before.connection.bus.calls.length = 1 ∧ after.connection.bus.active = 0 := by
  intro script opening
  let rehearsal : Rehearsal :=
    ⟨⟨ScriptedBus.bus, Target.nickel, Interface.nickel, .callFirst⟩, opening.2, []⟩
  have opened : opening = (.ok rehearsal, opening.2) := rfl
  refine ⟨rehearsal, opened, ?_⟩
  intro done steps
  have owners := subscriptions_have_owners opened .callFirst steps
    (.waitArmed "scan" (.ofSeconds 3)) 4000
  dsimp only at owners ⊢
  obtain ⟨⟨active, drained⟩, -⟩ := owners
  rw [active, drained]
  decide +kernel

end Rehearsal

end BusBridge
