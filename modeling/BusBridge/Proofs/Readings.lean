import BusBridge.Proofs.Delivery

/-!
# Runs of a scripted bus

A run of many subscriptions is, for each of them, the run of its mailbox through the
steps that it sees.  So a subscription reads its own copy of the scripted signals and
then what is emitted after it was made, whatever the others do.
-/

namespace BusBridge

namespace ScriptedBus

/-- From one bus to a later one, every subscription of the first has taken the steps
that it saw. -/
structure Leads (bus later : ScriptedBus) (seen : Nat → List MailboxStep) : Prop where
  kept : later.Kept
  script : later.script = bus.script
  subscriptions : bus.subscriptions ≤ later.subscriptions
  mailboxes : ∀ subscription < bus.subscriptions,
    later.mailbox? subscription =
      Mailbox.stepAll (bus.mailbox? subscription) (seen subscription)

section Steps

variable {bus later last : ScriptedBus} {seen others : Nat → List MailboxStep}

theorem Leads.refl (kept : bus.Kept) : bus.Leads bus fun _ => [] :=
  ⟨kept, rfl, Nat.le_refl _, fun _ _ => rfl⟩

theorem Leads.trans (first : bus.Leads later seen) (second : later.Leads last others) :
    bus.Leads last fun subscription => seen subscription ++ others subscription where
  kept := second.kept
  script := second.script.trans first.script
  subscriptions := Nat.le_trans first.subscriptions second.subscriptions
  mailboxes subscription known := by
    rw [second.mailboxes subscription (Nat.lt_of_lt_of_le known first.subscriptions),
      first.mailboxes subscription known, Mailbox.stepAll_append]

theorem leads_emit (kept : bus.Kept) (notification : Notification) :
    bus.Leads (bus.emit notification) fun _ => [.deliver notification] where
  kept := kept.emit notification
  script := rfl
  subscriptions := Nat.le_refl _
  mailboxes subscription _ := by
    rw [mailbox?_emit kept]
    cases bus.mailbox? subscription <;> rfl

theorem leads_release (kept : bus.Kept) (ended : Nat) :
    bus.Leads (bus.release ended) (MailboxStep.discard.onlyFor ended) where
  kept := kept.release ended
  script := rfl
  subscriptions := Nat.le_refl _
  mailboxes subscription _ := by
    rw [mailbox?_release, MailboxStep.onlyFor]
    by_cases own : subscription = ended
    · rw [if_pos own, if_pos own]
      cases bus.mailbox? subscription <;> rfl
    · rw [if_neg own, if_neg own]
      rfl

theorem leads_setMailbox (kept : bus.Kept) {reader : Nat} {mailbox remaining : Mailbox}
    {event : Timed StreamEvent} (found : bus.mailbox? reader = some mailbox)
    (taken : mailbox.next? = some (event, remaining)) :
    bus.Leads (bus.setMailbox reader remaining) (MailboxStep.read.onlyFor reader) where
  kept := kept.setMailbox found
  script := rfl
  subscriptions := Nat.le_refl _
  mailboxes subscription _ := by
    rw [mailbox?_setMailbox found, MailboxStep.onlyFor]
    by_cases own : subscription = reader
    · rw [if_pos own, if_pos own, own, found]
      change some remaining = Mailbox.step (some mailbox) .read
      rw [Mailbox.step, taken]
    · rw [if_neg own, if_neg own]
      rfl

theorem leads_subscribe (kept : bus.Kept) : bus.Leads bus.subscribe.2 fun _ => [] where
  kept := kept.subscribe
  script := by
    obtain ⟨-, same⟩ | ⟨-, made⟩ := bus.subscribe_cases
    · rw [same]
    · rw [made]
  subscriptions := by
    obtain ⟨-, same⟩ | ⟨-, made⟩ := bus.subscribe_cases
    · exact Nat.le_of_eq (congrArg subscriptions same.symm)
    · rw [made]
      exact Nat.le_succ _
  mailboxes subscription known := bus.mailbox?_subscribe known

/-- Subscriptions that end one after the other. -/
theorem leads_foldl_release (kept : bus.Kept) (ended : List Nat) :
    bus.Leads (ended.foldl release bus) fun subscription =>
      ended.flatMap fun owner => MailboxStep.discard.onlyFor owner subscription := by
  induction ended generalizing bus with
  | nil => exact .refl kept
  | cons first rest ih =>
      have released := leads_release kept first
      exact released.trans (ih released.kept)

/-- The signals of a call, with subscriptions that end in between. -/
theorem leads_foldl_emit (kept : bus.Kept) (ending : Nat → List Nat)
    (signals : List (Notification × Nat)) :
    bus.Leads
      (signals.foldl (fun bus signal => ((ending signal.2).foldl release bus).emit signal.1) bus)
      fun subscription => signals.flatMap fun signal =>
        ((ending signal.2).flatMap fun owner => MailboxStep.discard.onlyFor owner subscription) ++
          [.deliver signal.1] := by
  induction signals generalizing bus with
  | nil => exact .refl kept
  | cons signal rest ih =>
      have released := leads_foldl_release kept (ending signal.2)
      have sent := released.trans (leads_emit released.kept signal.1)
      exact sent.trans (ih sent.kept)

theorem leads_callWhile (kept : bus.Kept) (call : MethodCall) (ending : Nat → List Nat) :
    bus.Leads (bus.callWhile call ending) fun subscription =>
      (BusOperation.call call ending).seenBy bus.script subscription := by
  obtain ⟨after, script, subscriptions, mailboxes⟩ := leads_foldl_emit (kept.record call) ending
    (bus.script.emitted call.method).zipIdx
  exact ⟨after, script, subscriptions, mailboxes⟩

theorem leads_perform (kept : bus.Kept) (operation : BusOperation) :
    bus.Leads (bus.perform operation).1 (operation.seenBy bus.script) := by
  cases operation with
  | subscribe => exact leads_subscribe kept
  | call request ending => exact leads_callWhile kept request ending
  | drop ended => exact leads_release kept ended
  | read reader =>
      rw [perform]
      obtain ⟨empty, still⟩ | ⟨mailbox, event, remaining, found, taken, read⟩ :=
        bus.next?_cases reader
      · rw [empty]
        refine ⟨kept, rfl, Nat.le_refl _, fun subscription _ => ?_⟩
        rw [BusOperation.seenBy, MailboxStep.onlyFor]
        by_cases own : subscription = reader
        · subst own
          rw [if_pos rfl]
          change _ = Mailbox.step (bus.mailbox? subscription) .read
          cases found : bus.mailbox? subscription with
          | none => rfl
          | some mailbox => rw [Mailbox.step, still mailbox found]
        · rw [if_neg own]
          rfl
      · rw [read]
        exact leads_setMailbox kept found taken
  | abandon reader =>
      rw [perform]
      obtain ⟨empty, -⟩ | ⟨mailbox, event, remaining, found, taken, read⟩ :=
        bus.next?_cases reader
      · rw [empty]
        exact leads_release kept reader
      · rw [read]
        have started := leads_setMailbox kept found taken
        have ended := started.trans (leads_release started.kept reader)
        refine ⟨ended.kept, ended.script, ended.subscriptions, fun subscription known => ?_⟩
        -- It makes no difference to the reader that something was taken before the end.
        rw [ended.mailboxes subscription known, BusOperation.seenBy]
        by_cases own : subscription = reader
        · simp only [MailboxStep.onlyFor, own, found]
          change Mailbox.step (Mailbox.step (some mailbox) .read) .discard = _
          rw [Mailbox.step, taken]
          rfl
        · simp only [MailboxStep.onlyFor, if_neg own]
          rfl

theorem leads_afterAll (kept : bus.Kept) (operations : List BusOperation) :
    bus.Leads (bus.afterAll operations) fun subscription =>
      operations.flatMap (·.seenBy bus.script subscription) := by
  induction operations generalizing bus with
  | nil => exact .refl kept
  | cons operation rest ih =>
      have performed := leads_perform kept operation
      have others := ih performed.kept
      rw [performed.script] at others
      exact performed.trans others

theorem readBy_singleton (bus : ScriptedBus) (subscription : Nat) (operation : BusOperation) :
    bus.readBy subscription [operation] =
      Mailbox.readAll (bus.mailbox? subscription) (operation.seenBy bus.script subscription) := by
  by_cases reads : operation = .read subscription
  · subst reads
    have own : (BusOperation.read subscription).seenBy bus.script subscription = [.read] :=
      if_pos rfl
    rw [own, readBy, readings, perform]
    obtain ⟨empty, still⟩ | ⟨mailbox, event, remaining, found, taken, read⟩ :=
      bus.next?_cases subscription
    · rw [empty]
      cases found : bus.mailbox? subscription with
      | none => rfl
      | some mailbox => simp [Mailbox.readAll, Mailbox.reading?, readings, still mailbox found]
    · rw [read, found]
      cases signal : event.item.notification? <;>
        simp [Mailbox.readAll, Mailbox.reading?, readings, taken, signal]
  · rw [Mailbox.readAll_of_not_mem_read _ (mt (BusOperation.read_mem_seenBy_iff ..).mp reads)]
    cases operation with
    | subscribe => rfl
    | call request ending => rfl
    | drop ended => rfl
    | abandon reader =>
        rw [readBy, readings, perform]
        cases bus.next? reader <;> rfl
    | read reader =>
        have other : reader ≠ subscription := fun same => reads (congrArg _ same)
        rw [readBy, readings, perform]
        cases bus.next? reader with
        | none => rfl
        | some result =>
            cases signal : result.1.item.notification? <;> simp [readings, signal, other]

theorem readBy_cons (bus : ScriptedBus) (subscription : Nat) (operation : BusOperation)
    (others : List BusOperation) :
    bus.readBy subscription (operation :: others) =
      bus.readBy subscription [operation] ++
        (bus.perform operation).1.readBy subscription others := by
  simp [readBy, readings]

theorem readBy_append (bus : ScriptedBus) (subscription : Nat)
    (first second : List BusOperation) :
    bus.readBy subscription (first ++ second) =
      bus.readBy subscription first ++ (bus.afterAll first).readBy subscription second := by
  induction first generalizing bus with
  | nil => rfl
  | cons operation rest ih =>
      rw [List.cons_append, readBy_cons, ih, readBy_cons bus subscription operation rest,
        List.append_assoc]
      rfl

/-- What a subscription reads in a run is what its mailbox gives in the steps that it
sees. -/
theorem readBy_eq_readAll (kept : bus.Kept) {subscription : Nat}
    (known : subscription < bus.subscriptions) (operations : List BusOperation) :
    bus.readBy subscription operations =
      Mailbox.readAll (bus.mailbox? subscription)
        (operations.flatMap (·.seenBy bus.script subscription)) := by
  induction operations generalizing bus with
  | nil => rfl
  | cons operation rest ih =>
      have performed := leads_perform kept operation
      rw [readBy_cons, readBy_singleton,
        ih performed.kept (Nat.lt_of_lt_of_le known performed.subscriptions),
        performed.script, performed.mailboxes subscription known, List.flatMap_cons,
        Mailbox.readAll_append]

/-- Nothing is read under a number before it is handed out. -/
theorem readBy_of_unborn (kept : bus.Kept) {subscription : Nat} {operations : List BusOperation}
    (unborn : (bus.afterAll operations).subscriptions ≤ subscription) :
    bus.readBy subscription operations = [] := by
  induction operations generalizing bus with
  | nil => rfl
  | cons operation rest ih =>
      have performed := leads_perform kept operation
      have grown := (leads_afterAll performed.kept rest).subscriptions
      have absent : bus.mailbox? subscription = none :=
        mailbox?_eq_none_of_le kept
          (Nat.le_trans performed.subscriptions (Nat.le_trans grown unborn))
      rw [readBy_cons, readBy_singleton, absent, Mailbox.readAll_none,
        ih performed.kept unborn]
      rfl

/-- A subscription that reads on gets all that it has still to read. -/
theorem readBy_further (kept : bus.Kept) {subscription : Nat} {mailbox : Mailbox}
    (found : bus.mailbox? subscription = some mailbox) :
    bus.readBy subscription (List.replicate mailbox.pending.length (.read subscription)) =
      mailbox.pending := by
  have known : subscription < bus.subscriptions :=
    kept.alive_lt subscription (by rw [isAlive, found]; rfl)
  have own : (BusOperation.read subscription).seenBy bus.script subscription = [.read] :=
    if_pos rfl
  have seen (count : Nat) : (List.replicate count (BusOperation.read subscription)).flatMap
      (·.seenBy bus.script subscription) = List.replicate count .read := by
    simp [List.flatMap_replicate, own]
  rw [readBy_eq_readAll kept known, found, seen, mailbox.readAll_pending]

end Steps

section Run

variable {script : Script} {before : List BusOperation} {subscription : Nat}

theorem subscribed_after (made : ((ofScript script).afterAll before).subscribe.1 =
      .ok subscription) :
    let bus := ((ofScript script).afterAll before).subscribe.2
    bus.Kept ∧ bus.script = script ∧ subscription < bus.subscriptions ∧
      bus.mailbox? subscription = some ⟨script.signals, [], script.closing⟩ := by
  have start := leads_afterAll (kept_ofScript script) before
  have subscribed := leads_subscribe start.kept
  have same : ((ofScript script).afterAll before).script = script := start.script
  obtain ⟨-, fresh⟩ := mailbox?_subscribe_self start.kept made
  rw [same] at fresh
  refine ⟨subscribed.kept, subscribed.script.trans same, ?_, fresh⟩
  exact subscribed.kept.alive_lt subscription (by rw [isAlive, fresh]; rfl)

/-- What a subscription reads from the beginning depends only on what it sees since it was
made. -/
theorem readBy_subscribed (made : ((ofScript script).afterAll before).subscribe.1 =
      .ok subscription) (after : List BusOperation) :
    (ofScript script).readBy subscription (before ++ .subscribe :: after) =
      Mailbox.readAll (some ⟨script.signals, [], script.closing⟩)
        (after.flatMap (·.seenBy script subscription)) := by
  have start := leads_afterAll (kept_ofScript script) before
  obtain ⟨number, -⟩ := mailbox?_subscribe_self start.kept made
  obtain ⟨kept, same, known, fresh⟩ := subscribed_after made
  rw [readBy_append, readBy_of_unborn (kept_ofScript script) (Nat.le_of_eq number.symm),
    readBy_cons, readBy_singleton, perform, readBy_eq_readAll kept known, same, fresh]
  rfl

theorem mailbox?_subscribed (made : ((ofScript script).afterAll before).subscribe.1 =
      .ok subscription) (after : List BusOperation) :
    ((ofScript script).afterAll (before ++ .subscribe :: after)).mailbox? subscription =
      Mailbox.stepAll (some ⟨script.signals, [], script.closing⟩)
        (after.flatMap (·.seenBy script subscription)) := by
  obtain ⟨kept, same, known, fresh⟩ := subscribed_after made
  have run := (leads_afterAll kept after).mailboxes subscription known
  rw [fresh, same] at run
  rw [← run, afterAll, List.foldl_append]
  rfl

/-- What is in a new mailbox, and what comes into it, is what the subscription is offered. -/
theorem pending_append_delivered (script : Script) (subscription : Nat)
    (after : List BusOperation) :
    (⟨script.signals, [], script.closing⟩ : Mailbox).pending ++
        (if script.closing then [] else
          (after.flatMap (·.seenBy script subscription)).filterMap MailboxStep.delivered?) =
      BusOperation.offered script after := by
  rw [List.filterMap_flatMap, BusOperation.offered, Mailbox.pending, List.append_assoc]
  simp only [BusOperation.filterMap_delivered?_seenBy]
  cases script.closing <;> rfl

/-- As long as a subscription is alive, nothing is lost of what it is offered. -/
theorem readBy_append_stream (made : ((ofScript script).afterAll before).subscribe.1 =
      .ok subscription) {after : List BusOperation}
    (alive : ((ofScript script).afterAll (before ++ .subscribe :: after)).isAlive subscription =
      true) :
    (ofScript script).readBy subscription (before ++ .subscribe :: after) ++
        (((ofScript script).afterAll (before ++ .subscribe :: after)).stream
          subscription).filterMap (·.item.notification?) =
      BusOperation.offered script after := by
  have left := mailbox?_subscribed made after
  rw [isAlive, left] at alive
  obtain ⟨remaining, stepped, conserved⟩ :=
    Mailbox.readAll_append_pending (Mailbox.not_mem_discard_of_isSome alive)
  rw [pending_append_delivered script subscription after] at conserved
  rw [stream, left, stepped, readBy_subscribed made, ← conserved]
  exact congrArg _ remaining.filterMap_notification?_stream

/-- A call at the end of a run. -/
theorem afterAll_append_call (bus : ScriptedBus) (run : List BusOperation) (call : MethodCall) :
    bus.afterAll (run ++ [.call call fun _ => []]) = ((bus.afterAll run).call call).2 := by
  rw [← callWhile_nil, afterAll, List.foldl_append]
  rfl

/-- No signal is lost, comes twice or goes to another subscription.  What a subscription
reads is the beginning of its own copy of the scripted signals, followed on an open bus by
all that is emitted after it was made.  It is the same in every run in which the
subscription itself sees the same.  And while it is alive, the rest is still there and can
be read; the signals of the next call join it before the reply. -/
theorem subscription_reads_its_own (script : Script) (before after : List BusOperation)
    (subscription : Nat)
    (made : ((ofScript script).afterAll before).subscribe.1 = .ok subscription) :
    let run := before ++ .subscribe :: after
    let bus := (ofScript script).afterAll run
    let read := (ofScript script).readBy subscription run
    let whole := BusOperation.offered script after
    read <+: whole ∧
      (∀ before' after' other, ((ofScript script).afterAll before').subscribe.1 = .ok other →
        after'.flatMap (·.seenBy script other) = after.flatMap (·.seenBy script subscription) →
        (ofScript script).readBy other (before' ++ .subscribe :: after') = read) ∧
      (bus.isAlive subscription = true →
        read ++ (bus.stream subscription).filterMap (·.item.notification?) = whole ∧
        (∃ further, (ofScript script).readBy subscription
          (run ++ List.replicate further (.read subscription)) = whole) ∧
        ∀ call, read ++ ((bus.call call).2.stream subscription).filterMap
            (·.item.notification?) =
          whole ++ if script.closing then [] else script.emitted call.method) := by
  intro run bus read whole
  have start := leads_afterAll (kept_ofScript script) run
  have reads : read = _ := readBy_subscribed made after
  refine ⟨?_, ?_, fun alive => ⟨readBy_append_stream made alive, ?_, ?_⟩⟩
  · have offers : _ = whole := pending_append_delivered script subscription after
    rw [reads, ← offers]
    exact Mailbox.readAll_prefix _ _
  · intro before' after' other made' same
    rw [reads, readBy_subscribed made', same]
  · obtain ⟨mailbox, found⟩ := Option.isSome_iff_exists.mp alive
    have whole_eq : read ++ (bus.stream subscription).filterMap (·.item.notification?) = whole :=
      readBy_append_stream made alive
    rw [stream, found, mailbox.filterMap_notification?_stream] at whole_eq
    refine ⟨mailbox.pending.length, ?_⟩
    rw [readBy_append, readBy_further start.kept found]
    exact whole_eq
  · intro call
    have later : (ofScript script).afterAll (run ++ [.call call fun _ => []]) =
        (bus.call call).2 := afterAll_append_call _ run call
    have together : before ++ .subscribe :: (after ++ [.call call fun _ => []]) =
        run ++ [.call call fun _ => []] := by simp [run]
    have unread : (ofScript script).readBy subscription (run ++ [.call call fun _ => []]) =
        read := by
      rw [readBy_append]
      exact List.append_nil read
    have stays := isAlive_call start.kept call subscription
    rw [alive, ← later, ← together] at stays
    have all := readBy_append_stream made stays
    rw [together, unread, later] at all
    rw [all]
    simp only [BusOperation.offered, List.flatMap_append, whole]
    cases script.closing <;> simp [BusOperation.emits]

end Run

section Bystander

/-- A remote object that greets every subscription, and sends two signals in each scan. -/
def scanning : Script :=
  { Script.publishing [] with
    signals := [⟨5, ⟨"hello", []⟩⟩]
    emissions := [("scan", [⟨"started", []⟩, ⟨"finished", []⟩])] }

/-- The second subscription misses the scan before it, and is not disturbed when the first
one ends in the middle of the next. -/
theorem reads_while_another_ends :
    let earlier : List BusOperation := [.subscribe, .call ⟨"scan", []⟩ fun _ => []]
    let later : List BusOperation :=
      [.read 1, .call ⟨"scan", []⟩ fun signal => if signal = 1 then [0] else [], .read 1]
    let run := earlier ++ .subscribe :: later
    (ofScript scanning).readBy 1 run = [⟨"hello", []⟩, ⟨"started", []⟩] ∧
      [⟨"hello", []⟩, ⟨"started", []⟩] ++
          (((ofScript scanning).afterAll run).stream 1).filterMap (·.item.notification?) =
        [⟨"hello", []⟩, ⟨"started", []⟩, ⟨"finished", []⟩] := by
  intro earlier later run
  have read : (ofScript scanning).readBy 1 run = [⟨"hello", []⟩, ⟨"started", []⟩] := by rfl
  have whole : BusOperation.offered scanning later =
      [⟨"hello", []⟩, ⟨"started", []⟩, ⟨"finished", []⟩] := by rfl
  obtain ⟨-, -, rest⟩ := subscription_reads_its_own scanning earlier later 1 (by rfl)
  rw [read, whole] at rest
  exact ⟨read, (rest (by rfl)).1⟩

end Bystander

end ScriptedBus

end BusBridge
