import BusBridge.Proofs.TimedWait
import Mathlib.Data.List.DropRight

/-!
# Waits go by short names

A wait sees of a notification what follows the last dot of its member, and its values.
It reads the notifications of its stream in order, reports each one that it passes over,
and ends with the first one whose short name is in its set.  What is behind that one, the
part of a member before its last dot, and unwanted notifications that take no time have
no influence on how or when it ends.
-/

namespace BusBridge

/-- The text has no dot, and is the whole name or what follows one of its dots. -/
structure IsShortName (name short : String) : Prop where
  noDot : '.' ∉ short.toList
  ends : name = short ∨ ∃ qualifier, name = qualifier ++ "." ++ short

section Names

theorem afterLastDot_eq_rtakeWhile (characters : List Char) :
    afterLastDot characters = characters.rtakeWhile (· ≠ '.') :=
  rfl

theorem dot_notMem_afterLastDot (characters : List Char) : '.' ∉ afterLastDot characters := by
  intro member
  exact absurd (List.mem_rtakeWhile_imp member) (by decide)

/-- What is taken away ends with a dot, unless nothing is. -/
theorem eq_afterLastDot_or_exists (characters : List Char) :
    characters = afterLastDot characters ∨
      ∃ before, characters = before ++ '.' :: afterLastDot characters := by
  have split := List.rdropWhile_append_rtakeWhile (p := (· ≠ '.')) (l := characters)
  rw [← afterLastDot_eq_rtakeWhile] at split
  by_cases whole : characters.rdropWhile (· ≠ '.') = []
  · rw [whole, List.nil_append] at split
    exact .inl split.symm
  · have dot : (characters.rdropWhile (· ≠ '.')).getLast whole = '.' := by
      simpa using List.rdropWhile_last_not (· ≠ '.') characters whole
    refine .inr ⟨(characters.rdropWhile (· ≠ '.')).dropLast, ?_⟩
    have last := List.dropLast_append_getLast whole
    rw [dot] at last
    calc characters
        = characters.rdropWhile (· ≠ '.') ++ afterLastDot characters := split.symm
      _ = (characters.rdropWhile (· ≠ '.')).dropLast ++ ['.'] ++ afterLastDot characters := by
          rw [last]
      _ = _ := List.append_assoc _ _ _

theorem afterLastDot_of_noDot {characters : List Char} (noDot : '.' ∉ characters) :
    afterLastDot characters = characters := by
  rw [afterLastDot_eq_rtakeWhile, List.rtakeWhile_eq_self_iff]
  intro character member
  exact decide_eq_true fun dot => noDot (dot ▸ member)

theorem afterLastDot_append {last : List Char} (noDot : '.' ∉ last) (before : List Char) :
    afterLastDot (before ++ '.' :: last) = last := by
  have plain : ∀ character ∈ last.reverse, decide (character ≠ '.') = true := by
    intro character member
    exact decide_eq_true fun dot => noDot (dot ▸ List.mem_reverse.mp member)
  rw [afterLastDot, List.reverse_append, List.reverse_cons, List.append_assoc,
    List.takeWhile_append_of_pos plain]
  simp

theorem shortName_eq_iff {name short : String} :
    shortName name = short ↔ IsShortName name short := by
  have list : shortName name = short ↔ afterLastDot name.toList = short.toList := by
    rw [shortName, ← String.toList_inj, String.toList_ofList]
  rw [list]
  constructor
  · intro taken
    refine ⟨taken ▸ dot_notMem_afterLastDot _, ?_⟩
    rcases eq_afterLastDot_or_exists name.toList with whole | ⟨before, split⟩
    · exact .inl (String.toList_inj.mp (whole.trans taken))
    · refine .inr ⟨String.ofList before, String.toList_inj.mp ?_⟩
      rw [split, taken]
      simp
  · rintro ⟨noDot, rfl | ⟨qualifier, rfl⟩⟩
    · exact afterLastDot_of_noDot noDot
    · have split : (qualifier ++ "." ++ short).toList =
          qualifier.toList ++ '.' :: short.toList := by
        simp
      rw [split]
      exact afterLastDot_append noDot _

end Names

/-- A wait cannot tell these events apart. -/
inductive StreamEvent.Alike : StreamEvent → StreamEvent → Prop
  | notified {first second : Notification} (short : first.shortName = second.shortName)
      (values : first.values = second.values) : Alike (.notified first) (.notified second)
  | failed (reason : String) : Alike (.failed reason) (.failed reason)
  | closed : Alike .closed .closed

namespace Wait

/-- The report about a notification that a wait passes over. -/
def discarding (notification : Notification) : Log.Event :=
  ⟨.debug, logTarget, "discarding unrequested signal", [("signal", .plain notification.member)]⟩

/-- The notifications that a wait passes over, the first one that it wants, and what of the
stream it leaves unread. -/
structure EndsWith (wait : Wait) (stream : List (Timed StreamEvent))
    (passed : List (Timed Notification)) (taken : Timed Notification)
    (unread : List (Timed StreamEvent)) : Prop where
  stream_eq : stream = passed.map (Timed.map .notified) ++ taken.map .notified :: unread
  unwanted : ∀ timed ∈ passed, wait.wants timed.item = false
  wanted : wait.wants taken.item = true
  passed_inTime : ∀ timed ∈ passed, wait.inTime timed.after = true
  taken_inTime : wait.inTime taken.after = true

/-- Streams that differ only in what a wait cannot see when it has lasted until now: in the
namespaces of their members, and in unwanted notifications that take no time. -/
inductive Similar (wait : Wait) : Nat → List (Timed StreamEvent) → List (Timed StreamEvent) → Prop
  | nil (now : Nat) : Similar wait now [] []
  | event {now : Nat} {first second : Timed StreamEvent} {rest others : List (Timed StreamEvent)}
      (together : first.after = second.after) (alike : first.item.Alike second.item)
      (similar : Similar wait second.after rest others) :
      Similar wait now (first :: rest) (second :: others)
  | inserted {now : Nat} {extra : Notification} {stream other : List (Timed StreamEvent)}
      (unwanted : wait.wants extra = false) (similar : Similar wait now stream other) :
      Similar wait now stream (⟨now, .notified extra⟩ :: other)
  | removed {now : Nat} {extra : Notification} {stream other : List (Timed StreamEvent)}
      (unwanted : wait.wants extra = false) (similar : Similar wait now stream other) :
      Similar wait now (⟨now, .notified extra⟩ :: stream) other

section Runs

variable {wait : Wait} {stream other unread : List (Timed StreamEvent)}
  {passed : List (Timed Notification)} {taken : Timed Notification} {now : Nat}

theorem react_of_alike {first second : StreamEvent} (alike : first.Alike second) :
    wait.react (.stream first) = wait.react (.stream second) := by
  cases alike with
  | notified short values => rw [react, react, short, values]
  | failed reason => rfl
  | closed => rfl

theorem run_cons_of_unwanted {notification : Notification} (reached : wait.inTime now = true)
    (unwanted : wait.wants notification = false) (rest : List (Timed StreamEvent)) :
    wait.run (⟨now, .notified notification⟩ :: rest) = wait.run rest := by
  rw [run_cons, if_pos reached, react_notified, unwanted]
  rfl

theorem run_cons_of_wanted {notification : Notification} (reached : wait.inTime now = true)
    (wanted : wait.wants notification = true) (rest : List (Timed StreamEvent)) :
    wait.run (⟨now, .notified notification⟩ :: rest) = some ⟨now, arrival notification⟩ := by
  rw [run_cons, if_pos reached, react_notified, wanted]
  rfl

theorem run_eq_of_similar (reached : wait.inTime now = true)
    (similar : wait.Similar now stream other) : wait.run stream = wait.run other := by
  induction similar with
  | nil now => rfl
  | @event now first second rest others together alike similar ih =>
      rw [run_cons, run_cons, together, react_of_alike alike]
      by_cases inTime : wait.inTime second.after = true
      · rw [if_pos inTime, if_pos inTime, ih inTime]
      · rw [if_neg inTime, if_neg inTime]
  | @inserted now extra stream other unwanted similar ih =>
      rw [run_cons_of_unwanted reached unwanted, ih reached]
  | @removed now extra stream other unwanted similar ih =>
      rw [run_cons_of_unwanted reached unwanted, ih reached]

theorem EndsWith.run_eq (ends : wait.EndsWith stream passed taken unread) :
    wait.run stream = some ⟨taken.after, arrival taken.item⟩ := by
  obtain ⟨rfl, unwanted, wanted, early, reached⟩ := ends
  induction passed with
  | nil => exact run_cons_of_wanted reached wanted unread
  | cons first rest ih =>
      have skipped := run_cons_of_unwanted (early _ List.mem_cons_self)
        (unwanted _ List.mem_cons_self)
        (rest.map (Timed.map .notified) ++ taken.map .notified :: unread)
      refine skipped.trans (ih (fun timed member => ?_) fun timed member => ?_)
      · exact unwanted timed (List.mem_cons_of_mem _ member)
      · exact early timed (List.mem_cons_of_mem _ member)

theorem EndsWith.cons (ends : wait.EndsWith stream passed taken unread)
    (first : Timed Notification) (reached : wait.inTime first.after = true)
    (unwanted : wait.wants first.item = false) :
    wait.EndsWith (first.map .notified :: stream) (first :: passed) taken unread where
  stream_eq := by rw [ends.stream_eq]; rfl
  unwanted := List.forall_mem_cons.mpr ⟨unwanted, ends.unwanted⟩
  wanted := ends.wanted
  passed_inTime := List.forall_mem_cons.mpr ⟨reached, ends.passed_inTime⟩
  taken_inTime := ends.taken_inTime

/-- Neither the limit nor the end of the stream is a signal. -/
theorem exists_endsWith_of_run_eq {moment : Nat} {found : Arrival}
    (ended : wait.run stream = some ⟨moment, .ok found⟩) :
    ∃ passed taken unread, wait.EndsWith stream passed taken unread ∧
      taken.item.shortName = found.signal ∧ taken.item.values = found.values := by
  have expired : wait.expiry? ≠ some ⟨moment, .ok found⟩ := by
    rw [expiry?]
    cases wait.limit.milliseconds? <;> simp
  induction stream with
  | nil =>
      rw [run_nil] at ended
      exact absurd ended expired
  | cons first rest ih =>
      by_cases reached : wait.inTime first.after = true
      case neg =>
        rw [run_cons, if_neg reached] at ended
        exact absurd ended expired
      case pos =>
        obtain ⟨after, event⟩ := first
        cases event with
        | notified notification =>
            cases wanted : wait.wants notification with
            | true =>
                rw [run_cons_of_wanted reached wanted, arrival] at ended
                cases ended
                exact ⟨[], ⟨after, notification⟩, rest,
                  ⟨rfl, List.forall_mem_nil _, wanted, List.forall_mem_nil _, reached⟩, rfl, rfl⟩
            | false =>
                rw [run_cons_of_unwanted reached wanted] at ended
                obtain ⟨passed, taken, unread, ends, same⟩ := ih ended
                exact ⟨⟨after, notification⟩ :: passed, taken, unread,
                  ends.cons ⟨after, notification⟩ reached wanted, same⟩
        | failed reason =>
            rw [run_cons, if_pos reached] at ended
            simp [react] at ended
        | closed =>
            rw [run_cons, if_pos reached] at ended
            simp [react] at ended

/-- What is reported on a stream whose first event is a notification in time. -/
theorem passingReports_events_cons {notification : Notification}
    (reached : wait.inTime now = true) (rest : List (Timed StreamEvent)) :
    wait.passingReports ((wait.events (⟨now, .notified notification⟩ :: rest)).map Timed.item) =
      if wait.wants notification then []
      else discarding notification ::
        wait.passingReports ((wait.events rest).map Timed.item) := by
  rw [events_cons_of_inTime reached]
  change ((WaitEvent.stream (.notified notification) ::
    (wait.events rest).map Timed.item).takeWhile _).filterMap passingReport? = _
  cases wanted : wait.wants notification with
  | true =>
      rw [List.takeWhile_cons_of_neg (by simp [react_notified, wanted])]
      rfl
  | false =>
      rw [List.takeWhile_cons_of_pos (by simp [react_notified, wanted])]
      rfl

/-- All that is passed over is reported, and nothing else. -/
theorem EndsWith.passingReports_eq (ends : wait.EndsWith stream passed taken unread) :
    wait.passingReports ((wait.events stream).map Timed.item) =
      passed.map fun timed => discarding timed.item := by
  obtain ⟨rfl, unwanted, wanted, early, reached⟩ := ends
  induction passed with
  | nil => exact (passingReports_events_cons reached unread).trans (if_pos wanted)
  | cons first rest ih =>
      refine (passingReports_events_cons (early _ List.mem_cons_self) _).trans ?_
      rw [unwanted _ List.mem_cons_self, if_neg Bool.false_ne_true]
      refine congrArg (List.cons _) (ih (fun timed member => ?_) fun timed member => ?_)
      · exact unwanted timed (List.mem_cons_of_mem _ member)
      · exact early timed (List.mem_cons_of_mem _ member)

end Runs

end Wait

theorem Outcome.ofOption_map_item_eq_done_iff {α : Type}
    {ending? : Option (Timed (Except SessionError α))} {value : α} :
    ofOption (ending?.map Timed.item) = done value ↔
      ∃ moment, ending? = some ⟨moment, .ok value⟩ := by
  rcases ending? with _ | ⟨moment, _ | found⟩ <;> simp [ofOption, ofExcept]

namespace Session

section Streams

variable {σ : Type} (session : Session σ) (armed : ArmedWait) (limit : WaitLimit)
  (connection : Connection σ)

theorem waitArmed_fst_eq_run :
    (session.waitArmed armed limit connection).1 =
      .ofOption (((armed.within limit).run
        (session.bus.stream armed.subscription connection.bus)).map Timed.item) := by
  rw [waitArmed_fst, ← Wait.map_item_settleTimed]
  rfl

theorem clock_waitArmed :
    (session.waitArmed armed limit connection).2.clock =
      connection.clock + (((armed.within limit).run
        (session.bus.stream armed.subscription connection.bus)).map Timed.after).getD 0 := by
  change _ = connection.clock + (((armed.within limit).settleTimed
    (session.expected armed limit connection.bus)).map Timed.after).getD 0
  rw [waitArmed]
  cases (armed.within limit).settleTimed (session.expected armed limit connection.bus) <;> rfl

theorem reports_waitArmed :
    (session.waitArmed armed limit connection).2.reports =
      connection.reports ++ (armed.within limit).passingReports
        (((armed.within limit).events
          (session.bus.stream armed.subscription connection.bus)).map Timed.item) := by
  rw [waitArmed]
  cases (armed.within limit).settleTimed (session.expected armed limit connection.bus) <;>
    simp [release, expected]

/-- The signal that ends a wait is told by its short name, which is what follows the last
dot.  The wait passes over the unwanted notifications before it, with a report about each,
and lasts until it comes, whatever the stream holds after it.  On a similar stream it ends
alike and lasts as long. -/
theorem waitArmed_goes_by_short_names :
    let wait := armed.within limit
    let stream := session.bus.stream armed.subscription connection.bus
    let ending := session.waitArmed armed limit connection
    (∀ (notification : Notification) (short : String),
      notification.shortName = short ↔ IsShortName notification.member short) ∧
    (∀ arrival, ending.1 = .done arrival ↔
      ∃ passed taken unread, wait.EndsWith stream passed taken unread ∧
        taken.item.shortName = arrival.signal ∧ taken.item.values = arrival.values) ∧
    (∀ passed taken unread, wait.EndsWith stream passed taken unread →
      ending.2.clock = connection.clock + taken.after ∧
        ending.2.reports =
          connection.reports ++ passed.map fun timed => Wait.discarding timed.item) ∧
    ∀ {τ : Type} (other : Session τ) (otherArmed : ArmedWait) (otherConnection : Connection τ),
      otherArmed.signals = armed.signals →
      wait.Similar 0 stream (other.bus.stream otherArmed.subscription otherConnection.bus) →
      let otherEnding := other.waitArmed otherArmed limit otherConnection
      otherEnding.1 = ending.1 ∧
        ∃ duration, ending.2.clock = connection.clock + duration ∧
          otherEnding.2.clock = otherConnection.clock + duration := by
  intro wait stream ending
  refine ⟨fun notification short => shortName_eq_iff, fun arrival => ?done, ?_, ?similar⟩
  case done =>
    rw [session.waitArmed_fst_eq_run, Outcome.ofOption_map_item_eq_done_iff]
    constructor
    · rintro ⟨moment, ended⟩
      exact Wait.exists_endsWith_of_run_eq ended
    · rintro ⟨passed, taken, unread, ends, signal, values⟩
      refine ⟨taken.after, ends.run_eq.trans ?_⟩
      rw [Wait.arrival, signal, values]
  · intro passed taken unread ends
    refine ⟨?_, ?_⟩
    · rw [session.clock_waitArmed, ends.run_eq]
      rfl
    · rw [session.reports_waitArmed, ends.passingReports_eq]
  case similar =>
    intro τ other otherArmed otherConnection signals similar otherEnding
    have same : otherArmed.within limit = wait := by
      rw [ArmedWait.within, signals]
      rfl
    have runs := Wait.run_eq_of_similar (Wait.inTime_zero wait) similar
    refine ⟨?_, _, session.clock_waitArmed armed limit connection, ?_⟩
    · rw [other.waitArmed_fst_eq_run, session.waitArmed_fst_eq_run, same, ← runs]
    · rw [other.clock_waitArmed, same, ← runs]

end Streams

/-- A remote object that tells what it does under qualified names. -/
def qualified : Script :=
  { Script.publishing [Interface.nickel] with
    signals := [⟨400, ⟨"com.example.Begun", []⟩⟩,
      ⟨600, ⟨"com.example.Done", [.string "a.b"]⟩⟩, ⟨5, ⟨"com.example.Done", []⟩⟩] }

/-- It tells the same under other names, and two things more in between. -/
def requalified : Script :=
  { Script.publishing [Interface.nickel] with
    signals := [⟨0, ⟨".Noise", []⟩⟩, ⟨400, ⟨"Begun", []⟩⟩, ⟨0, ⟨"Done.", []⟩⟩,
      ⟨600, ⟨"..Done", [.string "a.b"]⟩⟩, ⟨5, ⟨"example.Done", []⟩⟩] }

/-- The name that ends with a dot has an empty short name, and does not end the wait. -/
theorem requalified_signals_end_alike :
    let session : Session ScriptedBus :=
      ⟨ScriptedBus.bus, Target.nickel, Interface.nickel, .callFirst⟩
    let waited (script : Script) (clock : Nat) := session.waitArmed ⟨0, .ofList ["Done"]⟩
      (.ofSeconds 1) ⟨(ScriptedBus.ofScript script).subscribe.2, clock, []⟩
    (waited qualified 7).1 = .done ⟨"Done", [.string "a.b"]⟩ ∧
      (waited qualified 7).2.clock = 1007 ∧
      (waited qualified 7).2.reports = [Wait.discarding ⟨"com.example.Begun", []⟩] ∧
      (waited requalified 20).1 = .done ⟨"Done", [.string "a.b"]⟩ ∧
      (waited requalified 20).2.clock = 1020 := by
  intro session waited
  obtain ⟨-, ends, read, similar⟩ := session.waitArmed_goes_by_short_names
    ⟨0, .ofList ["Done"]⟩ (.ofSeconds 1) ⟨(ScriptedBus.ofScript qualified).subscribe.2, 7, []⟩
  have course : (ArmedWait.within ⟨0, .ofList ["Done"]⟩ (.ofSeconds 1)).EndsWith
      (Mailbox.streamAt ⟨qualified.signals, [], false⟩ 0)
      [⟨400, ⟨"com.example.Begun", []⟩⟩] ⟨1000, ⟨"com.example.Done", [.string "a.b"]⟩⟩
      [⟨1005, .notified ⟨"com.example.Done", []⟩⟩] :=
    ⟨by rfl, by decide, by decide, by decide, by decide⟩
  have alike : (ArmedWait.within ⟨0, .ofList ["Done"]⟩ (.ofSeconds 1)).Similar 0
      (Mailbox.streamAt ⟨qualified.signals, [], false⟩ 0)
      (Mailbox.streamAt ⟨requalified.signals, [], false⟩ 0) := by
    refine .inserted (by decide) (.event rfl (.notified (by decide) rfl) ?_)
    refine .inserted (by decide) (.event rfl (.notified (by decide) rfl) ?_)
    exact .event rfl (.notified (by decide) rfl) (.nil _)
  have first := (ends ⟨"Done", [.string "a.b"]⟩).mpr ⟨_, _, _, course, by decide, rfl⟩
  obtain ⟨clock, reports⟩ := read _ _ _ course
  obtain ⟨same, duration, lasted, asLong⟩ := similar session ⟨0, .ofList ["Done"]⟩
    ⟨(ScriptedBus.ofScript requalified).subscribe.2, 20, []⟩ rfl alike
  obtain rfl : duration = 1000 := Nat.add_left_cancel (lasted.symm.trans clock)
  exact ⟨first, clock, reports, same.trans first, asLong⟩

end Session

end BusBridge
