import BusBridge.Bus

/-!
# A scripted bus

A bus in memory that follows a script.  The script says what the remote object
publishes, what its methods return, which signals they emit before they return,
and which signals every subscription gets by itself.  A subscription reads its own
copy of the scripted signals first, and then what was emitted since it was made;
on a bus that closes its streams the scripted signals are all that it reads.
-/

namespace BusBridge

structure Script where
  interfaces : List Interface
  introspectionError : Option String
  replies : List (String × List Value)
  callErrors : List (String × String)
  /-- The signals that a method emits before its reply. -/
  emissions : List (String × List Notification)
  replyDelay : Nat
  /-- The signals that every subscription gets, each a number of milliseconds after
  the one before it was read. -/
  signals : List (Timed Notification)
  subscriptionError : Option String
  /-- The streams end after the scripted signals. -/
  closing : Bool
deriving Inhabited

namespace Script

/-- A script that publishes interfaces and does nothing else. -/
def publishing (interfaces : List Interface) : Script :=
  ⟨interfaces, none, [], [], [], 0, [], none, false⟩

def emitted (script : Script) (method : String) : List Notification :=
  (script.emissions.lookup method).getD []

def reply (script : Script) (method : String) : Reply :=
  match script.callErrors.lookup method with
  | some reason => .error reason
  | none => .ok ((script.replies.lookup method).getD [])

end Script

/-- What a subscription has still to read. -/
structure Mailbox where
  scripted : List (Timed Notification)
  live : List Notification
  closing : Bool
deriving DecidableEq, Repr

namespace Mailbox

/-- Put a signal at the end of what is to be read. -/
def deliver (mailbox : Mailbox) (notification : Notification) : Mailbox :=
  { mailbox with live := mailbox.live ++ [notification] }

/-- Read the next event, with the time that this takes, unless nothing is there and
the stream stays open. -/
def next? (mailbox : Mailbox) : Option (Timed StreamEvent × Mailbox) :=
  match mailbox.scripted with
  | first :: rest => some (first.map .notified, { mailbox with scripted := rest })
  | [] =>
    if mailbox.closing then some (⟨0, .closed⟩, mailbox)
    else match mailbox.live with
      | first :: rest => some (⟨0, .notified first⟩, { mailbox with live := rest })
      | [] => none

/-- The events after the scripted signals, the last of which was read at `now`. -/
def rest (mailbox : Mailbox) (now : Nat) : List (Timed StreamEvent) :=
  if mailbox.closing then [⟨now, .closed⟩]
  else mailbox.live.map fun notification => ⟨now, .notified notification⟩

/-- The scripted signals from `now` on, followed by the rest. -/
def streamFrom (mailbox : Mailbox) (now : Nat) :
    List (Timed Notification) → List (Timed StreamEvent)
  | [] => mailbox.rest now
  | first :: others =>
    ⟨now + first.after, .notified first.item⟩ :: mailbox.streamFrom (now + first.after) others

/-- All that is to be read, if every event is read as soon as it is there. -/
def stream (mailbox : Mailbox) : List (Timed StreamEvent) :=
  mailbox.streamFrom 0 mailbox.scripted

end Mailbox

/-- A scripted bus and what happened on it. -/
structure ScriptedBus where
  script : Script
  introspections : Nat
  /-- The number of subscriptions that were ever made. -/
  subscriptions : Nat
  /-- The number of subscriptions that were not ended. -/
  active : Nat
  calls : List MethodCall
  /-- Where signals are sent to, in the order of subscription.  A subscription that has
  ended stays on the list until the next signal is sent. -/
  listeners : List Nat
  /-- The subscriptions that are alive, by number. -/
  mailboxes : List (Nat × Mailbox)
deriving Inhabited

namespace ScriptedBus

def ofScript (script : Script) : ScriptedBus :=
  ⟨script, 0, 0, 0, [], [], []⟩

def mailbox? (bus : ScriptedBus) (subscription : Nat) : Option Mailbox :=
  bus.mailboxes.lookup subscription

def isAlive (bus : ScriptedBus) (subscription : Nat) : Bool :=
  (bus.mailbox? subscription).isSome

def introspect (bus : ScriptedBus) : Except String (List Interface) × ScriptedBus :=
  let answer := match bus.script.introspectionError with
    | some reason => .error reason
    | none => .ok bus.script.interfaces
  (answer, { bus with introspections := bus.introspections + 1 })

/-- Make a subscription with its own copy of the scripted signals. -/
def subscribe (bus : ScriptedBus) : Except String Nat × ScriptedBus :=
  match bus.script.subscriptionError with
  | some reason => (.error reason, bus)
  | none =>
    let mailbox : Mailbox := ⟨bus.script.signals, [], bus.script.closing⟩
    (.ok bus.subscriptions,
      { bus with
        subscriptions := bus.subscriptions + 1
        active := bus.active + 1
        listeners := bus.listeners ++ [bus.subscriptions]
        mailboxes := bus.mailboxes ++ [(bus.subscriptions, mailbox)] })

def release (bus : ScriptedBus) (subscription : Nat) : ScriptedBus :=
  { bus with
    active := bus.active - 1
    mailboxes := bus.mailboxes.filter fun entry => entry.1 != subscription }

def changeMailbox (change : Mailbox → Mailbox) (subscription : Nat)
    (mailboxes : List (Nat × Mailbox)) : List (Nat × Mailbox) :=
  mailboxes.map fun entry =>
    if entry.1 == subscription then (entry.1, change entry.2) else entry

/-- Send a signal to all listeners, and strike off those that have ended. -/
def emit (bus : ScriptedBus) (notification : Notification) : ScriptedBus :=
  { bus with
    listeners := bus.listeners.filter bus.isAlive
    mailboxes := bus.listeners.foldl
      (fun mailboxes listener => changeMailbox (·.deliver notification) listener mailboxes)
      bus.mailboxes }

def record (bus : ScriptedBus) (call : MethodCall) : ScriptedBus :=
  { bus with calls := bus.calls ++ [call] }

/-- Call a method: the call is recorded, its signals are sent, and the reply follows
after the delay. -/
def call (bus : ScriptedBus) (call : MethodCall) : Timed Reply × ScriptedBus :=
  (⟨bus.script.replyDelay, bus.script.reply call.method⟩,
    (bus.script.emitted call.method).foldl emit (bus.record call))

def setMailbox (bus : ScriptedBus) (subscription : Nat) (mailbox : Mailbox) : ScriptedBus :=
  { bus with mailboxes := changeMailbox (fun _ => mailbox) subscription bus.mailboxes }

/-- Read the next event of a subscription, and leave the rest of it there. -/
def next? (bus : ScriptedBus) (subscription : Nat) : Option (Timed StreamEvent × ScriptedBus) := do
  let mailbox ← bus.mailbox? subscription
  let (event, remaining) ← mailbox.next?
  return (event, bus.setMailbox subscription remaining)

/-- All that a subscription has still to read. -/
def stream (bus : ScriptedBus) (subscription : Nat) : List (Timed StreamEvent) :=
  match bus.mailbox? subscription with
  | some mailbox => mailbox.stream
  | none => []

/-- The scripted bus as a bus for sessions.  It looks at the method only, whatever
the remote object is, and it reports nothing. -/
def bus : Bus ScriptedBus where
  introspect _ state := state.introspect
  subscribe _ state := state.subscribe
  release subscription state := state.release subscription
  call _ call state :=
    let (reply, state) := state.call call
    (some reply, state)
  stream subscription state := state.stream subscription
  subscribing _ := []

end ScriptedBus

end BusBridge
