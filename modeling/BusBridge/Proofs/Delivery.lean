import BusBridge.Proofs.Mailboxes

/-!
# What a subscription reads

A subscription sees little of what is done with its bus: signals come into its mailbox,
it is read from, and it ends.  What it reads is determined by these alone, and nothing
is lost or comes twice: at any time the signals that were read, followed by those that
are still to be read, are the scripted ones followed by those emitted since.
-/

namespace BusBridge

/-- What a mailbox sees of the operations on its bus. -/
inductive MailboxStep
  | deliver (notification : Notification)
  | read
  | discard
deriving DecidableEq

namespace MailboxStep

def delivered? : MailboxStep → Option Notification
  | deliver notification => some notification
  | _ => none

def onlyFor (step : MailboxStep) (owner subscription : Nat) : List MailboxStep :=
  if subscription = owner then [step] else []

theorem mem_onlyFor_iff {step other : MailboxStep} {owner subscription : Nat} :
    other ∈ step.onlyFor owner subscription ↔ subscription = owner ∧ other = step := by
  by_cases own : subscription = owner <;> simp [onlyFor, own]

theorem filterMap_delivered?_onlyFor {step : MailboxStep} (silent : step.delivered? = none)
    (owner subscription : Nat) : (step.onlyFor owner subscription).filterMap delivered? = [] := by
  by_cases own : subscription = owner <;> simp [onlyFor, own, silent]

end MailboxStep

namespace Mailbox

/-- The signals that are still to be read. -/
def pending (mailbox : Mailbox) : List Notification :=
  mailbox.scripted.map Timed.item ++ if mailbox.closing then [] else mailbox.live

/-- A mailbox after a step; there is none after it was discarded. -/
def step : Option Mailbox → MailboxStep → Option Mailbox
  | none, _ => none
  | some mailbox, .deliver notification => some (mailbox.deliver notification)
  | some mailbox, .read =>
    match mailbox.next? with
    | some (_, remaining) => some remaining
    | none => some mailbox
  | some _, .discard => none

def reading? : Option Mailbox → MailboxStep → Option Notification
  | some mailbox, .read => mailbox.next?.bind fun result => result.1.item.notification?
  | _, _ => none

def stepAll (mailbox? : Option Mailbox) (steps : List MailboxStep) : Option Mailbox :=
  steps.foldl step mailbox?

/-- The signals that are read in a number of steps. -/
def readAll : Option Mailbox → List MailboxStep → List Notification
  | _, [] => []
  | mailbox?, first :: rest =>
    (reading? mailbox? first).toList ++ readAll (step mailbox? first) rest

theorem stepAll_append (mailbox? : Option Mailbox) (first second : List MailboxStep) :
    stepAll mailbox? (first ++ second) = stepAll (stepAll mailbox? first) second :=
  List.foldl_append

theorem readAll_append (mailbox? : Option Mailbox) (first second : List MailboxStep) :
    readAll mailbox? (first ++ second) =
      readAll mailbox? first ++ readAll (stepAll mailbox? first) second := by
  induction first generalizing mailbox? with
  | nil => rfl
  | cons step rest ih =>
      rw [List.cons_append, readAll, readAll, ih, List.append_assoc]
      rfl

theorem readAll_none (steps : List MailboxStep) : readAll none steps = [] := by
  induction steps with
  | nil => rfl
  | cons step rest ih => exact ih

theorem stepAll_none (steps : List MailboxStep) : stepAll none steps = none := by
  induction steps with
  | nil => rfl
  | cons step rest ih => exact ih

theorem not_mem_discard_of_isSome {mailbox? : Option Mailbox} {steps : List MailboxStep}
    (alive : (stepAll mailbox? steps).isSome = true) : .discard ∉ steps := by
  intro discarded
  obtain ⟨first, rest, rfl⟩ := List.append_of_mem discarded
  have ended : step (stepAll mailbox? first) .discard = none := by
    cases stepAll mailbox? first <;> rfl
  have : stepAll mailbox? (first ++ .discard :: rest) = none := by
    rw [stepAll_append]
    change stepAll (step (stepAll mailbox? first) .discard) rest = none
    rw [ended, stepAll_none]
  rw [this] at alive
  cases alive

theorem readAll_of_not_mem_read (mailbox? : Option Mailbox) {steps : List MailboxStep}
    (unread : .read ∉ steps) : readAll mailbox? steps = [] := by
  induction steps generalizing mailbox? with
  | nil => rfl
  | cons step rest ih =>
      rw [List.mem_cons, not_or] at unread
      have nothing : reading? mailbox? step = none := by
        cases mailbox? with
        | none => rfl
        | some mailbox =>
            cases step with
            | read => exact absurd rfl unread.1
            | deliver notification => rfl
            | discard => rfl
      rw [readAll, nothing, ih _ unread.2]
      rfl

/-- What comes into a mailbox is read at last, and what is read is no longer there. -/
theorem step_conserves {mailbox remaining : Mailbox} {taken : MailboxStep}
    (kept : step (some mailbox) taken = some remaining) :
    remaining.closing = mailbox.closing ∧
      (reading? (some mailbox) taken).toList ++ remaining.pending =
        mailbox.pending ++ if mailbox.closing then [] else taken.delivered?.toList := by
  cases taken with
  | deliver notification =>
      obtain rfl := Option.some.inj kept
      refine ⟨rfl, ?_⟩
      cases closing : mailbox.closing <;>
        simp [reading?, pending, deliver, closing, MailboxStep.delivered?]
  | discard => cases kept
  | read =>
      obtain ⟨scripted, live, closing⟩ := mailbox
      cases scripted with
      | cons first rest =>
          obtain rfl := Option.some.inj kept
          exact ⟨rfl, by simp [reading?, next?, pending, Timed.map, StreamEvent.notification?,
            MailboxStep.delivered?]⟩
      | nil =>
          cases closing with
          | true =>
              obtain rfl := Option.some.inj kept
              exact ⟨rfl, by simp [reading?, next?, pending, StreamEvent.notification?]⟩
          | false =>
              cases live <;> obtain rfl := Option.some.inj kept <;>
                exact ⟨rfl, by simp [reading?, next?, pending, StreamEvent.notification?,
                  MailboxStep.delivered?]⟩

theorem exists_step_of_ne_discard (mailbox : Mailbox) {taken : MailboxStep}
    (kept : taken ≠ .discard) : ∃ remaining, step (some mailbox) taken = some remaining := by
  cases taken with
  | deliver notification => exact ⟨_, rfl⟩
  | discard => exact absurd rfl kept
  | read =>
      rw [step]
      cases mailbox.next? <;> exact ⟨_, rfl⟩

/-- As long as the mailbox is there, what was read and what is to be read are together
what it held at first and what came in. -/
theorem readAll_append_pending {mailbox : Mailbox} {steps : List MailboxStep}
    (kept : .discard ∉ steps) :
    ∃ remaining, stepAll (some mailbox) steps = some remaining ∧
      readAll (some mailbox) steps ++ remaining.pending =
        mailbox.pending ++ if mailbox.closing then []
          else steps.filterMap MailboxStep.delivered? := by
  induction steps generalizing mailbox with
  | nil => exact ⟨mailbox, rfl, by simp [readAll]⟩
  | cons first rest ih =>
      rw [List.mem_cons, not_or] at kept
      obtain ⟨next, taken⟩ := exists_step_of_ne_discard mailbox (Ne.symm kept.1)
      obtain ⟨closing, conserved⟩ := step_conserves taken
      obtain ⟨remaining, stepped, whole⟩ := @ih next kept.2
      refine ⟨remaining, ?_, ?_⟩
      · rw [← stepped, ← taken]
        rfl
      · rw [readAll, taken, List.append_assoc, whole, ← List.append_assoc, conserved, closing]
        cases mailbox.closing <;> cases first <;>
          simp [MailboxStep.delivered?, List.filterMap_cons]

/-- What is read comes from the front of what there is to be read, whenever the mailbox
is discarded. -/
theorem readAll_prefix (mailbox : Mailbox) (steps : List MailboxStep) :
    readAll (some mailbox) steps <+:
      mailbox.pending ++ if mailbox.closing then []
        else steps.filterMap MailboxStep.delivered? := by
  by_cases discarded : .discard ∈ steps
  · -- Up to the first discarding step the mailbox is there, and after it nothing is read.
    obtain ⟨first, rest, rfl, kept⟩ := List.eq_append_cons_of_mem discarded
    obtain ⟨remaining, stepped, whole⟩ := @readAll_append_pending mailbox _ kept
    have ended : readAll (some mailbox) (first ++ .discard :: rest) =
        readAll (some mailbox) first := by
      rw [readAll_append, stepped, readAll]
      change _ ++ ([] ++ readAll none rest) = _
      rw [readAll_none, List.append_nil, List.append_nil]
    have sent : mailbox.pending ++ (if mailbox.closing then [] else
          first.filterMap MailboxStep.delivered?) <+:
        mailbox.pending ++ (if mailbox.closing then [] else
          (first ++ .discard :: rest).filterMap MailboxStep.delivered?) := by
      rw [List.prefix_append_right_inj]
      cases mailbox.closing
      · rw [List.filterMap_append]
        exact List.prefix_append _ _
      · exact List.prefix_refl _
    rw [ended]
    exact (List.prefix_append _ _).trans (whole ▸ sent)
  · obtain ⟨remaining, -, whole⟩ := @readAll_append_pending mailbox _ discarded
    exact ⟨remaining.pending, whole⟩

theorem step_read_of_pending {mailbox : Mailbox} {first : Notification}
    {rest : List Notification} (waiting : mailbox.pending = first :: rest) :
    ∃ remaining, step (some mailbox) .read = some remaining ∧
      reading? (some mailbox) .read = some first ∧ remaining.pending = rest := by
  obtain ⟨scripted, live, closing⟩ := mailbox
  cases scripted with
  | cons head tail =>
      rw [pending, List.map_cons, List.cons_append, List.cons.injEq] at waiting
      exact ⟨⟨tail, live, closing⟩, rfl, congrArg some waiting.1, waiting.2⟩
  | nil =>
      cases closing with
      | true => cases waiting
      | false =>
          obtain rfl : live = first :: rest := waiting
          exact ⟨⟨[], rest, false⟩, rfl, rfl, rfl⟩

theorem readAll_pending (mailbox : Mailbox) :
    readAll (some mailbox) (List.replicate mailbox.pending.length .read) = mailbox.pending := by
  generalize waiting : mailbox.pending = signals
  induction signals generalizing mailbox with
  | nil => rfl
  | cons first rest ih =>
      obtain ⟨remaining, taken, read, left⟩ := step_read_of_pending waiting
      rw [List.length_cons, List.replicate_succ, readAll, taken, read, ih remaining left]
      rfl

theorem filterMap_notification?_stream (mailbox : Mailbox) :
    mailbox.stream.filterMap (·.item.notification?) = mailbox.pending := by
  have from_now (now : Nat) (scripted : List (Timed Notification)) :
      (mailbox.streamFrom now scripted).filterMap (·.item.notification?) =
        scripted.map Timed.item ++ if mailbox.closing then [] else mailbox.live := by
    induction scripted generalizing now with
    | nil =>
        rw [streamFrom, rest]
        cases mailbox.closing with
        | true => rfl
        | false => simp [List.filterMap_map, StreamEvent.notification?]
    | cons first others ih =>
        rw [streamFrom, List.filterMap_cons, ih]
        rfl
  exact from_now 0 mailbox.scripted

end Mailbox

namespace BusOperation

/-- The signals that are sent in an operation. -/
def emits (script : Script) : BusOperation → List Notification
  | .call request _ => script.emitted request.method
  | _ => []

/-- All that a subscription can read if these operations follow when it was made. -/
def offered (script : Script) (operations : List BusOperation) : List Notification :=
  script.signals.map Timed.item ++
    if script.closing then [] else operations.flatMap (·.emits script)

def seenBy (script : Script) (subscription : Nat) : BusOperation → List MailboxStep
  | .subscribe => []
  | .call request ending =>
    (script.emitted request.method).zipIdx.flatMap fun signal =>
      ((ending signal.2).flatMap fun ended => MailboxStep.discard.onlyFor ended subscription) ++
        [.deliver signal.1]
  | .read reader => MailboxStep.read.onlyFor reader subscription
  | .abandon reader => MailboxStep.discard.onlyFor reader subscription
  | .drop ended => MailboxStep.discard.onlyFor ended subscription

theorem read_mem_seenBy_iff (script : Script) (subscription : Nat) (operation : BusOperation) :
    .read ∈ operation.seenBy script subscription ↔ operation = .read subscription := by
  cases operation with
  | subscribe => simp [seenBy]
  | call request ending => simp [seenBy, MailboxStep.mem_onlyFor_iff]
  | read reader =>
      simp only [seenBy, MailboxStep.mem_onlyFor_iff, and_true, BusOperation.read.injEq]
      exact eq_comm
  | abandon reader => simp [seenBy, MailboxStep.mem_onlyFor_iff]
  | drop ended => simp [seenBy, MailboxStep.mem_onlyFor_iff]

/-- Every signal that is sent comes into the mailboxes once. -/
theorem filterMap_delivered?_seenBy (script : Script) (subscription : Nat)
    (operation : BusOperation) :
    (operation.seenBy script subscription).filterMap MailboxStep.delivered? =
      operation.emits script := by
  cases operation with
  | subscribe => rfl
  | call request ending =>
      have silent (ended : List Nat) :
          (ended.flatMap fun owner => MailboxStep.discard.onlyFor owner subscription).filterMap
            MailboxStep.delivered? = [] := by
        rw [List.filterMap_flatMap, List.flatMap_eq_nil_iff]
        exact fun owner _ => MailboxStep.filterMap_delivered?_onlyFor rfl owner subscription
      rw [seenBy, emits, List.filterMap_flatMap]
      simp only [List.filterMap_append, silent]
      exact (List.flatMap_pure_eq_map Prod.fst _).trans (List.zipIdx_map_fst 0 _)
  | read reader => exact MailboxStep.filterMap_delivered?_onlyFor rfl reader subscription
  | abandon reader => exact MailboxStep.filterMap_delivered?_onlyFor rfl reader subscription
  | drop ended => exact MailboxStep.filterMap_delivered?_onlyFor rfl ended subscription

end BusOperation

end BusBridge
