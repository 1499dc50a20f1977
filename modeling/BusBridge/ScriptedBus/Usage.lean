import BusBridge.ScriptedBus

/-!
# Uses of a scripted bus

A scripted bus may have many subscriptions at once.  They are made, read and ended in
any order, and methods are called in between.  A use of the bus is the list of what is
done with it; every signal that is read goes to one subscription.
-/

namespace BusBridge

namespace StreamEvent

def notification? : StreamEvent → Option Notification
  | notified notification => some notification
  | _ => none

end StreamEvent

inductive BusOperation
  | subscribe
  /-- Call a method.  The subscriptions in `ending i` end just before signal number `i`
  of the call is sent. -/
  | call (call : MethodCall) (ending : Nat → List Nat)
  /-- Read the next event of a subscription to the end, if there is one. -/
  | read (subscription : Nat)
  /-- Start to read, and end the subscription before the event has come. -/
  | abandon (subscription : Nat)
  | drop (subscription : Nat)

namespace ScriptedBus

/-- The state after a call, with subscriptions that end between its signals. -/
def callWhile (bus : ScriptedBus) (call : MethodCall) (ending : Nat → List Nat) : ScriptedBus :=
  (bus.script.emitted call.method).zipIdx.foldl
    (fun bus signal => ((ending signal.2).foldl release bus).emit signal.1) (bus.record call)

/-- Without subscriptions that end meanwhile it is the call of a method. -/
theorem callWhile_nil (bus : ScriptedBus) (call : MethodCall) :
    bus.callWhile call (fun _ => []) = (bus.call call).2 := by
  change (bus.script.emitted call.method).zipIdx.foldl
    (fun bus signal => bus.emit signal.1) (bus.record call) = _
  rw [← List.foldl_map (f := Prod.fst) (g := emit), List.zipIdx_map_fst]
  rfl

/-- The state after an operation, and the signal that was read, with its reader. -/
def perform (bus : ScriptedBus) : BusOperation → ScriptedBus × Option (Nat × Notification)
  | .subscribe => (bus.subscribe.2, none)
  | .call call ending => (bus.callWhile call ending, none)
  | .read subscription =>
    match bus.next? subscription with
    | some (event, next) =>
      (next, event.item.notification?.map fun notification => (subscription, notification))
    | none => (bus, none)
  | .abandon subscription =>
    match bus.next? subscription with
    | some (_, next) => (next.release subscription, none)
    | none => (bus.release subscription, none)
  | .drop subscription => (bus.release subscription, none)

def afterAll (bus : ScriptedBus) (operations : List BusOperation) : ScriptedBus :=
  operations.foldl (fun bus operation => (bus.perform operation).1) bus

/-- The signals that are read, in order, with their readers. -/
def readings (bus : ScriptedBus) : List BusOperation → List (Nat × Notification)
  | [] => []
  | operation :: others =>
    let (next, reading?) := bus.perform operation
    reading?.toList ++ next.readings others

/-- The signals that one subscription reads, in order. -/
def readBy (bus : ScriptedBus) (subscription : Nat) (operations : List BusOperation) :
    List Notification :=
  (bus.readings operations).filterMap fun reading =>
    if reading.1 = subscription then some reading.2 else none

end ScriptedBus

end BusBridge
