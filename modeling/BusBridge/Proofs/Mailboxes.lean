import BusBridge.ScriptedBus.Usage
import Mathlib.Data.List.Nodup
import Mathlib.Tactic.ByContra

/-!
# The mailboxes of a scripted bus

The listeners of a scripted bus are not the same as its living subscriptions: one that
has ended is struck off only when the next signal is sent.  The bus is kept in order
nevertheless: every living subscription is listed, and listed once.  So a signal is put
into each living mailbox exactly once, and every other operation touches the mailbox of
one subscription only.
-/

namespace BusBridge

namespace ScriptedBus

theorem lookup_changeMailbox (change : Mailbox → Mailbox) (subscription other : Nat)
    (mailboxes : List (Nat × Mailbox)) :
    (changeMailbox change subscription mailboxes).lookup other =
      if other = subscription then (mailboxes.lookup other).map change
      else mailboxes.lookup other := by
  induction mailboxes with
  | nil => simp [changeMailbox]
  | cons entry rest ih =>
      obtain ⟨number, mailbox⟩ := entry
      simp only [changeMailbox, List.map_cons, beq_iff_eq] at ih ⊢
      by_cases here : other = number
      · subst here
        by_cases same : other = subscription <;> simp [same, List.lookup_cons_self]
      · have apart : (other == number) = false := by simpa using here
        by_cases changed : number = subscription <;>
          simp [changed, List.lookup_cons, ih] <;> grind

theorem lookup_filter_ne (subscription other : Nat) (mailboxes : List (Nat × Mailbox)) :
    (mailboxes.filter fun entry => entry.1 != subscription).lookup other =
      if other = subscription then none else mailboxes.lookup other := by
  induction mailboxes with
  | nil => simp
  | cons entry rest ih =>
      obtain ⟨number, mailbox⟩ := entry
      by_cases dropped : number = subscription <;> by_cases here : other = number <;>
        grind

/-- Sending to a list without repetitions reaches every mailbox at most once. -/
theorem lookup_foldl_changeMailbox (change : Mailbox → Mailbox) {listeners : List Nat}
    (once : listeners.Nodup) (other : Nat) (mailboxes : List (Nat × Mailbox)) :
    (listeners.foldl (fun mailboxes listener => changeMailbox change listener mailboxes)
        mailboxes).lookup other =
      if other ∈ listeners then (mailboxes.lookup other).map change
      else mailboxes.lookup other := by
  induction listeners generalizing mailboxes with
  | nil => simp
  | cons listener rest ih =>
      obtain ⟨fresh, once⟩ := List.nodup_cons.mp once
      rw [List.foldl_cons, ih once, lookup_changeMailbox]
      by_cases here : other = listener
      · subst here
        simp [fresh]
      · simp [here]

/-- The living subscriptions of a bus are listed, once each, and all numbers on the bus
were handed out. -/
structure Kept (bus : ScriptedBus) : Prop where
  alive_lt : ∀ subscription, bus.isAlive subscription = true → subscription < bus.subscriptions
  listeners_lt : ∀ subscription ∈ bus.listeners, subscription < bus.subscriptions
  listed_once : bus.listeners.Nodup
  alive_listed : ∀ subscription, bus.isAlive subscription = true → subscription ∈ bus.listeners

theorem kept_ofScript (script : Script) : (ofScript script).Kept where
  alive_lt := by simp [isAlive, mailbox?, ofScript]
  listeners_lt := by simp [ofScript]
  listed_once := by simp [ofScript]
  alive_listed := by simp [isAlive, mailbox?, ofScript]

section Operations

variable {bus : ScriptedBus}

theorem mailbox?_eq_none_of_le (kept : bus.Kept) {subscription : Nat}
    (unborn : bus.subscriptions ≤ subscription) : bus.mailbox? subscription = none := by
  have dead : ¬ bus.isAlive subscription = true := fun alive =>
    absurd (kept.alive_lt subscription alive) (by omega)
  simpa [isAlive] using dead

theorem mailbox?_emit (kept : bus.Kept) (notification : Notification) (subscription : Nat) :
    (bus.emit notification).mailbox? subscription =
      (bus.mailbox? subscription).map (·.deliver notification) := by
  change (bus.listeners.foldl _ bus.mailboxes).lookup subscription = _
  rw [lookup_foldl_changeMailbox _ kept.listed_once]
  by_cases listed : subscription ∈ bus.listeners
  · rw [if_pos listed]
    rfl
  · -- Whoever is not listed is not alive, so there is no mailbox to miss the signal.
    have dead : bus.mailbox? subscription = none := by
      cases found : bus.mailbox? subscription with
      | none => rfl
      | some mailbox =>
          exact absurd (kept.alive_listed subscription (by simp [isAlive, found])) listed
    rw [if_neg listed]
    change bus.mailbox? subscription = _
    rw [dead]
    rfl

@[simp]
theorem isAlive_emit (kept : bus.Kept) (notification : Notification) (subscription : Nat) :
    (bus.emit notification).isAlive subscription = bus.isAlive subscription := by
  rw [isAlive, mailbox?_emit kept, Option.isSome_map]
  rfl

theorem Kept.emit (kept : bus.Kept) (notification : Notification) :
    (bus.emit notification).Kept where
  alive_lt subscription alive :=
    kept.alive_lt subscription (isAlive_emit kept notification subscription ▸ alive)
  listeners_lt subscription listed := kept.listeners_lt subscription (List.mem_filter.mp listed).1
  listed_once := kept.listed_once.filter _
  alive_listed subscription alive := by
    rw [isAlive_emit kept] at alive
    exact List.mem_filter.mpr ⟨kept.alive_listed subscription alive, alive⟩

theorem isAlive_foldl_emit (kept : bus.Kept) (signals : List Notification) (subscription : Nat) :
    (signals.foldl ScriptedBus.emit bus).isAlive subscription = bus.isAlive subscription := by
  induction signals generalizing bus with
  | nil => rfl
  | cons first rest ih => rw [List.foldl_cons, ih (kept.emit first), isAlive_emit kept]

theorem mailbox?_release (ended subscription : Nat) :
    (bus.release ended).mailbox? subscription =
      if subscription = ended then none else bus.mailbox? subscription :=
  lookup_filter_ne ended subscription bus.mailboxes

theorem isAlive_of_isAlive_release {ended subscription : Nat}
    (alive : (bus.release ended).isAlive subscription = true) :
    bus.isAlive subscription = true := by
  rw [isAlive, mailbox?_release] at alive
  by_cases same : subscription = ended
  · simp [same] at alive
  · simpa [same, isAlive] using alive

theorem Kept.release (kept : bus.Kept) (ended : Nat) : (bus.release ended).Kept where
  alive_lt subscription alive := kept.alive_lt subscription (isAlive_of_isAlive_release alive)
  listeners_lt := kept.listeners_lt
  listed_once := kept.listed_once
  alive_listed subscription alive :=
    kept.alive_listed subscription (isAlive_of_isAlive_release alive)

theorem Kept.record (kept : bus.Kept) (call : MethodCall) : (bus.record call).Kept :=
  ⟨kept.alive_lt, kept.listeners_lt, kept.listed_once, kept.alive_listed⟩

theorem Kept.introspect (kept : bus.Kept) : bus.introspect.2.Kept :=
  ⟨kept.alive_lt, kept.listeners_lt, kept.listed_once, kept.alive_listed⟩

theorem isAlive_call (kept : bus.Kept) (call : MethodCall) (subscription : Nat) :
    (bus.call call).2.isAlive subscription = bus.isAlive subscription :=
  isAlive_foldl_emit (kept.record call) _ subscription

/-- A subscription is made with the next number and with a mailbox of its own, or the bus
stays as it is. -/
theorem subscribe_cases (bus : ScriptedBus) :
    ((∃ reason, bus.subscribe.1 = .error reason) ∧ bus.subscribe.2 = bus) ∨
      (bus.subscribe.1 = .ok bus.subscriptions ∧ bus.subscribe.2 =
        { bus with
          subscriptions := bus.subscriptions + 1
          active := bus.active + 1
          listeners := bus.listeners ++ [bus.subscriptions]
          mailboxes := bus.mailboxes ++
            [(bus.subscriptions, ⟨bus.script.signals, [], bus.script.closing⟩)] }) := by
  rw [subscribe]
  cases refusal : bus.script.subscriptionError with
  | none => exact .inr ⟨rfl, rfl⟩
  | some reason => exact .inl ⟨⟨reason, rfl⟩, rfl⟩

/-- The mailboxes of the other subscriptions are not touched by a new one. -/
theorem mailbox?_subscribe (bus : ScriptedBus) {subscription : Nat}
    (known : subscription < bus.subscriptions) :
    bus.subscribe.2.mailbox? subscription = bus.mailbox? subscription := by
  obtain ⟨-, same⟩ | ⟨-, made⟩ := bus.subscribe_cases
  · rw [same]
  · rw [made]
    change (bus.mailboxes ++ [_]).lookup subscription = _
    have apart : (subscription == bus.subscriptions) = false := by
      simp only [beq_eq_false_iff_ne]
      omega
    rw [List.lookup_append, List.lookup_cons, apart]
    simp [mailbox?]

theorem mailbox?_subscribe_self (kept : bus.Kept) {subscription : Nat}
    (made : bus.subscribe.1 = .ok subscription) :
    subscription = bus.subscriptions ∧ bus.subscribe.2.mailbox? subscription =
      some ⟨bus.script.signals, [], bus.script.closing⟩ := by
  obtain ⟨⟨reason, refused⟩, -⟩ | ⟨accepted, after⟩ := bus.subscribe_cases
  · rw [refused] at made
    cases made
  · obtain rfl : bus.subscriptions = subscription := Except.ok.inj (accepted.symm.trans made)
    refine ⟨rfl, ?_⟩
    rw [after]
    change (bus.mailboxes ++ [_]).lookup bus.subscriptions = _
    have fresh : bus.mailboxes.lookup bus.subscriptions = none :=
      mailbox?_eq_none_of_le kept (Nat.le_refl _)
    rw [List.lookup_append, fresh, List.lookup_cons_self]
    rfl

theorem Kept.subscribe (kept : bus.Kept) : bus.subscribe.2.Kept := by
  obtain ⟨-, same⟩ | ⟨made, after⟩ := bus.subscribe_cases
  · rw [same]
    exact kept
  · have count : bus.subscribe.2.subscriptions = bus.subscriptions + 1 := by rw [after]
    have listed : bus.subscribe.2.listeners = bus.listeners ++ [bus.subscriptions] := by rw [after]
    have known : ∀ subscription, bus.subscribe.2.isAlive subscription = true →
        subscription = bus.subscriptions ∨ bus.isAlive subscription = true := by
      intro subscription alive
      by_cases old : subscription < bus.subscriptions
      · right
        rw [isAlive, mailbox?_subscribe bus old] at alive
        exact alive
      · left
        rw [isAlive, after] at alive
        change ((bus.mailboxes ++ [_]).lookup subscription).isSome = true at alive
        have fresh : bus.mailboxes.lookup subscription = none :=
          mailbox?_eq_none_of_le kept (by omega)
        rw [List.lookup_append, fresh, List.lookup_cons] at alive
        by_contra other
        have apart : (subscription == bus.subscriptions) = false := by simpa using other
        simp [apart] at alive
    constructor
    · intro subscription alive
      rw [count]
      obtain rfl | old := known subscription alive
      · omega
      · have := kept.alive_lt subscription old
        omega
    · intro subscription member
      rw [listed, List.mem_append, List.mem_singleton] at member
      rw [count]
      obtain old | rfl := member
      · have := kept.listeners_lt subscription old
        omega
      · omega
    · rw [listed]
      refine List.Nodup.append kept.listed_once (List.nodup_singleton _) ?_
      intro subscription old same
      rw [List.mem_singleton] at same
      have := kept.listeners_lt subscription old
      omega
    · intro subscription alive
      rw [listed, List.mem_append, List.mem_singleton]
      obtain rfl | old := known subscription alive
      · exact .inr rfl
      · exact .inl (kept.alive_listed subscription old)

/-- Reading changes the mailbox of the reader, if there is something to read. -/
theorem next?_cases (bus : ScriptedBus) (reader : Nat) :
    (bus.next? reader = none ∧
        ∀ mailbox, bus.mailbox? reader = some mailbox → mailbox.next? = none) ∨
      ∃ mailbox event remaining, bus.mailbox? reader = some mailbox ∧
        mailbox.next? = some (event, remaining) ∧
        bus.next? reader = some (event, bus.setMailbox reader remaining) := by
  rw [next?]
  cases found : bus.mailbox? reader with
  | none => exact .inl ⟨rfl, by simp⟩
  | some mailbox =>
      cases read : mailbox.next? with
      | none => exact .inl ⟨by simp [read], by simpa using read⟩
      | some result => exact .inr ⟨mailbox, result.1, result.2, rfl, read, by simp [read]⟩

theorem mailbox?_setMailbox {reader : Nat} {mailbox remaining : Mailbox}
    (found : bus.mailbox? reader = some mailbox) (subscription : Nat) :
    (bus.setMailbox reader remaining).mailbox? subscription =
      if subscription = reader then some remaining else bus.mailbox? subscription := by
  rw [mailbox?, setMailbox, lookup_changeMailbox]
  by_cases same : subscription = reader
  · subst same
    rw [if_pos rfl, if_pos rfl]
    change (bus.mailbox? subscription).map _ = _
    rw [found]
    rfl
  · rw [if_neg same, if_neg same]
    rfl

theorem Kept.setMailbox (kept : bus.Kept) {reader : Nat} {mailbox remaining : Mailbox}
    (found : bus.mailbox? reader = some mailbox) : (bus.setMailbox reader remaining).Kept := by
  have before : ∀ subscription, (bus.setMailbox reader remaining).isAlive subscription = true →
      bus.isAlive subscription = true := by
    intro subscription alive
    rw [isAlive, mailbox?_setMailbox found] at alive
    by_cases same : subscription = reader
    · rw [same, isAlive, found]
      rfl
    · simpa [same, isAlive] using alive
  exact ⟨fun subscription alive => kept.alive_lt subscription (before subscription alive),
    kept.listeners_lt, kept.listed_once,
    fun subscription alive => kept.alive_listed subscription (before subscription alive)⟩

end Operations

end ScriptedBus

end BusBridge
