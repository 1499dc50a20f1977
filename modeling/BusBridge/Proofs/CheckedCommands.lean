import BusBridge.Proofs.RunOrder
import BusBridge.Proofs.ShortNames
import BusBridge.Proofs.SignalOrder
import Mathlib.Data.List.DropRight

/-!
# Commands are checked before they are carried out

The engine takes the name of a method and a set of signals as they come.  That no name is
empty, that none has blanks at its ends, and that there is something to wait for where there
is only a wait is seen to when a typed command becomes one that can be carried out.
-/

namespace BusBridge

namespace Text

/-- The name is the text without the blanks at its ends, and there is something left. -/
structure TrimsTo (text name : String) : Prop where
  between : ∃ before after, text = before ++ name ++ after ∧ IsBlank before ∧ IsBlank after
  trimmed : IsTrimmed name

section Trimming

variable {text name : String}

theorem trim_ne_empty (visible : ¬IsBlank text) : trim text ≠ "" := by
  intro empty
  have none : trimChars text.toList = [] := by simpa [trim] using congrArg String.toList empty
  rw [trimChars, List.reverse_eq_nil_iff, List.dropWhile_eq_nil_iff] at none
  refine visible fun character member => ?_
  rw [← @List.takeWhile_append_dropWhile _ isBlank text.toList, List.mem_append] at member
  rcases member with member | member
  · exact List.mem_takeWhile_imp member
  · exact none character (List.mem_reverse.mpr member)

theorem toList_trim (text : String) :
    (trim text).toList = (text.toList.dropWhile isBlank).rdropWhile isBlank := by
  rw [trim, String.toList_ofList]
  rfl

theorem isTrimmed_trim (visible : ¬IsBlank text) : IsTrimmed (trim text) := by
  have some : (trim text).toList ≠ [] := by
    simpa [String.toList_eq_nil_iff] using trim_ne_empty visible
  refine ⟨some, fun first here => ?_, fun last here => ?_⟩
  · obtain ⟨rest, split⟩ := List.rdropWhile_prefix isBlank (text.toList.dropWhile isBlank)
    have starts : (text.toList.dropWhile isBlank).head? = .some first := by
      rw [← split, ← toList_trim, List.head?_append, here]
      rfl
    have visible := List.head?_dropWhile_not isBlank text.toList
    rw [starts] at visible
    exact visible
  · rw [List.getLast?_eq_some_getLast some, Option.some.injEq] at here
    simp only [toList_trim] at here some
    have visible := List.rdropWhile_last_not isBlank (text.toList.dropWhile isBlank) some
    rw [here] at visible
    exact Bool.eq_false_iff.mpr visible

/-- Nothing but blanks is taken away. -/
theorem exists_around_trim (text : String) :
    ∃ before after, text = before ++ trim text ++ after ∧ IsBlank before ∧ IsBlank after := by
  let rest := text.toList.dropWhile isBlank
  refine ⟨.ofList (text.toList.takeWhile isBlank), .ofList (rest.rtakeWhile isBlank), ?_, ?_, ?_⟩
  · rw [← String.toList_inj, String.toList_append, String.toList_append, String.toList_ofList,
      String.toList_ofList, toList_trim, List.append_assoc, List.rdropWhile_append_rtakeWhile,
      List.takeWhile_append_dropWhile]
  · intro character member
    rw [String.toList_ofList] at member
    exact List.mem_takeWhile_imp member
  · intro character member
    rw [String.toList_ofList] at member
    exact List.mem_rtakeWhile_imp member

theorem TrimsTo.trim_eq (trims : TrimsTo text name) : trim text = name := by
  obtain ⟨⟨before, after, rfl, blank, blankAfter⟩, some, starts, ends⟩ := trims
  obtain ⟨first, others, letters⟩ := List.exists_cons_of_ne_nil some
  have visible : isBlank first = false := starts first (by rw [letters]; rfl)
  have front : ((before ++ name ++ after).toList.dropWhile isBlank) =
      name.toList ++ after.toList := by
    rw [String.toList_append, String.toList_append, List.append_assoc,
      List.dropWhile_append_of_pos blank, letters, List.cons_append,
      List.dropWhile_cons_of_neg (by simp [visible])]
  have back : (name.toList ++ after.toList).reverse.dropWhile isBlank = name.toList.reverse := by
    have blankBack : ∀ character ∈ after.toList.reverse, isBlank character = true := by
      intro character member
      exact blankAfter character (List.mem_reverse.mp member)
    rw [List.reverse_append, List.dropWhile_append_of_pos blankBack]
    apply dropWhile_isBlank_of_head?
    rwa [List.head?_reverse]
  rw [trim, trimChars, front, back, List.reverse_reverse, String.ofList_toList]

theorem TrimsTo.not_isBlank (trims : TrimsTo text name) : ¬IsBlank text := by
  intro blank
  have empty := trims.trim_eq
  rw [trim_of_isBlank blank] at empty
  exact trims.trimmed.ne_empty (by rw [← empty]; rfl)

theorem trimsTo_iff : TrimsTo text name ↔ ¬IsBlank text ∧ trim text = name := by
  constructor
  · intro trims
    exact ⟨trims.not_isBlank, trims.trim_eq⟩
  · rintro ⟨visible, rfl⟩
    exact ⟨exists_around_trim text, isTrimmed_trim visible⟩

end Trimming

end Text

namespace SignalSet

/-- The set has the names that these texts are trimmed to, each of them once. -/
structure Gathers (signals : SignalSet) (texts : List String) : Prop where
  mem_iff : ∀ name, name ∈ signals.names ↔ ∃ text ∈ texts, Text.TrimsTo text name
  trimmed : ∀ name ∈ signals.names, Text.IsTrimmed name
  once : signals.names.Nodup

section Gathering

variable {signals other : SignalSet} {texts : List String}

theorem Gathers.unique (gathers : signals.Gathers texts) (also : other.Gathers texts) :
    signals = other := by
  apply eq_of_contains
  intro name
  rw [contains, contains, List.contains_iff_mem, List.contains_iff_mem, gathers.mem_iff,
    also.mem_iff]

/-- A set of which nothing was left out is empty if there was nothing. -/
theorem Gathers.isEmpty_iff (gathers : signals.Gathers texts)
    (visible : ∀ text ∈ texts, ¬Text.IsBlank text) : signals.isEmpty = true ↔ texts = [] := by
  rw [isEmpty, List.isEmpty_iff, List.eq_nil_iff_forall_not_mem, List.eq_nil_iff_forall_not_mem]
  simp only [gathers.mem_iff]
  constructor
  · intro none text member
    exact none _ ⟨text, member, Text.trimsTo_iff.mpr ⟨visible text member, rfl⟩⟩
  · rintro none name ⟨text, member, -⟩
    exact none text member

theorem gathers_ofList (visible : ∀ text ∈ texts, ¬Text.IsBlank text) :
    (ofList (texts.map Text.trim)).Gathers texts := by
  have known (name : String) : name ∈ (ofList (texts.map Text.trim)).names ↔
      ∃ text ∈ texts, Text.TrimsTo text name := by
    rw [mem_names_ofList, List.mem_map]
    simp only [Text.trimsTo_iff]
    constructor
    · rintro ⟨text, member, trims⟩
      exact ⟨text, member, visible text member, trims⟩
    · rintro ⟨text, member, -, trims⟩
      exact ⟨text, member, trims⟩
  refine ⟨known, fun name member => ?_, (ofList _).sorted.nodup⟩
  obtain ⟨text, -, trims⟩ := (known name).mp member
  exact trims.trimmed

end Gathering

end SignalSet

namespace WaitLimit

/-- The limit of so many seconds, where zero seconds are no limit. -/
inductive Stands : Nat → WaitLimit → Prop
  | never : Stands 0 .never
  | seconds (count : Nat) (positive : 0 < count) : Stands count (.seconds count positive)

theorem stands_iff {count : Nat} {limit : WaitLimit} :
    Stands count limit ↔ limit = ofSeconds count := by
  constructor
  · rintro (_ | ⟨_, positive⟩)
    · rfl
    · rw [ofSeconds, dif_pos positive]
  · rintro rfl
    rw [ofSeconds]
    split
    · next positive => exact .seconds count positive
    · next zero =>
        obtain rfl : count = 0 := by omega
        exact .never

end WaitLimit

namespace Command

/-- A method is to be called, and there is no name for it. -/
def LacksMethod : TypedCommand → Prop
  | .method name _ _ _ => Text.IsBlank name
  | .signal _ _ => False
  | .api => False

/-- A signal has no name, or there is nothing to wait for where there is only a wait. -/
def LacksSignal : TypedCommand → Prop
  | .method _ _ signals _ => ∃ signal ∈ signals, Text.IsBlank signal
  | .signal names _ => names = [] ∨ ∃ name ∈ names, Text.IsBlank name
  | .api => False

/-- A command that can be carried out, and what was typed for it. -/
inductive Checks : TypedCommand → Command → Prop
  | method {text name : String} {texts : List String} {signals : SignalSet} {seconds : Nat}
      {limit : WaitLimit} (arguments : List String) (named : Text.TrimsTo text name)
      (visible : ∀ signal ∈ texts, ¬Text.IsBlank signal) (gathers : signals.Gathers texts)
      (asked : signals.isEmpty = true ↔ texts = []) (stands : WaitLimit.Stands seconds limit) :
      Checks (.method text arguments texts seconds) (.method name arguments signals limit)
  | signal {texts : List String} {signals : SignalSet} {seconds : Nat} {limit : WaitLimit}
      (visible : ∀ signal ∈ texts, ¬Text.IsBlank signal) (gathers : signals.Gathers texts)
      (asked : signals.isEmpty = false) (stands : WaitLimit.Stands seconds limit) :
      Checks (.signal texts seconds) (.signal signals limit)
  | api : Checks .api .api

/-- What a command waits for. -/
def signals : Command → SignalSet
  | .method _ _ signals _ => signals
  | .signal signals _ => signals
  | .api => .empty

section Checking

variable {typed : TypedCommand} {command other : Command}

theorem signalSet_of_visible {names : List String}
    (visible : ∀ name ∈ names, ¬Text.IsBlank name) :
    signalSet names = .ok (.ofList (names.map Text.trim)) := by
  have filled : (names.map Text.trim).any String.isEmpty = false := by
    rw [List.any_eq_false]
    intro trimmed member
    obtain ⟨name, inside, rfl⟩ := List.mem_map.mp member
    rw [String.isEmpty_iff]
    exact Text.trim_ne_empty (visible name inside)
  rw [signalSet]
  exact if_neg (filled ▸ Bool.false_ne_true)

theorem signalSet_cases (names : List String) :
    ((∃ name ∈ names, Text.IsBlank name) ∧ signalSet names = .error .missingSignal) ∨
      ((∀ name ∈ names, ¬Text.IsBlank name) ∧
        signalSet names = .ok (.ofList (names.map Text.trim))) := by
  by_cases visible : ∀ name ∈ names, ¬Text.IsBlank name
  · exact .inr ⟨visible, signalSet_of_visible visible⟩
  · have found : ∃ name ∈ names, Text.IsBlank name := by simpa using visible
    obtain ⟨name, member, blank⟩ := id found
    exact .inl ⟨found, signalSet_of_isBlank member blank⟩

/-- Behind the name of a method only the names of the signals can be wrong. -/
theorem ofTyped_method_of_named {name : String} (arguments names : List String) (seconds : Nat)
    (named : ¬Text.IsBlank name) :
    ofTyped (.method name arguments names seconds) =
      (signalSet names).map (.method (Text.trim name) arguments · (.ofSeconds seconds)) := by
  have filled : (Text.trim name).isEmpty = false := by
    rw [String.isEmpty_eq_false_iff]
    exact Text.trim_ne_empty named
  rw [ofTyped, filled, if_neg Bool.false_ne_true]
  cases signalSet names <;> rfl

theorem ofTyped_method_of_visible {name : String} {signals : List String}
    (arguments : List String) (seconds : Nat) (named : ¬Text.IsBlank name)
    (visible : ∀ signal ∈ signals, ¬Text.IsBlank signal) :
    ofTyped (.method name arguments signals seconds) =
      .ok (.method (Text.trim name) arguments (.ofList (signals.map Text.trim))
        (.ofSeconds seconds)) := by
  rw [ofTyped_method_of_named arguments signals seconds named, signalSet_of_visible visible]
  rfl

theorem Checks.unique (checks : Checks typed command) (also : Checks typed other) :
    command = other := by
  cases checks with
  | method arguments named visible gathers asked stands =>
      cases also with
      | method _ name _ gathered _ lasts =>
          rw [← named.trim_eq, ← name.trim_eq, gathers.unique gathered,
            WaitLimit.stands_iff.mp stands, WaitLimit.stands_iff.mp lasts]
  | signal visible gathers asked stands =>
      cases also with
      | signal _ gathered _ lasts =>
          rw [gathers.unique gathered, WaitLimit.stands_iff.mp stands,
            WaitLimit.stands_iff.mp lasts]
  | api =>
      cases also
      rfl

/-- A typed command lacks the name of its method, or else the name of a signal, or else it is
one that can be carried out. -/
theorem ofTyped_cases (typed : TypedCommand) :
    (LacksMethod typed ∧ ofTyped typed = .error .missingMethod) ∨
      (¬LacksMethod typed ∧ LacksSignal typed ∧ ofTyped typed = .error .missingSignal) ∨
      (¬LacksMethod typed ∧ ¬LacksSignal typed ∧
        ∃ command, ofTyped typed = .ok command ∧ Checks typed command) := by
  cases typed with
  | method text arguments names seconds =>
      by_cases unnamed : Text.IsBlank text
      · left
        refine ⟨unnamed, ?_⟩
        rw [ofTyped, Text.trim_of_isBlank unnamed]
        rfl
      · right
        rw [ofTyped_method_of_named arguments names seconds unnamed]
        rcases signalSet_cases names with ⟨found, refused⟩ | ⟨visible, accepted⟩
        · left
          rw [refused]
          exact ⟨unnamed, found, rfl⟩
        · right
          have gathers := SignalSet.gathers_ofList visible
          rw [accepted]
          refine ⟨unnamed, by simpa [LacksSignal] using visible, _, rfl, ?_⟩
          exact .method arguments (Text.trimsTo_iff.mpr ⟨unnamed, rfl⟩) visible gathers
            (gathers.isEmpty_iff visible) (WaitLimit.stands_iff.mpr rfl)
  | signal names seconds =>
      right
      rw [ofTyped]
      rcases signalSet_cases names with ⟨found, refused⟩ | ⟨visible, accepted⟩
      · left
        rw [refused]
        exact ⟨id, .inr found, rfl⟩
      · have gathers := SignalSet.gathers_ofList visible
        rw [accepted]
        cases asked : (SignalSet.ofList (names.map Text.trim)).isEmpty with
        | true =>
            left
            exact ⟨id, .inl ((gathers.isEmpty_iff visible).mp asked), if_pos asked⟩
        | false =>
            right
            refine ⟨id, ?_, .signal (.ofList (names.map Text.trim)) (.ofSeconds seconds),
              if_neg (asked ▸ Bool.false_ne_true),
              .signal visible gathers asked (WaitLimit.stands_iff.mpr rfl)⟩
            rintro (none | ⟨name, member, blank⟩)
            · rw [(gathers.isEmpty_iff visible).mpr none] at asked
              cases asked
            · exact visible name member blank
  | api => exact .inr (.inr ⟨id, id, .api, rfl, .api⟩)

theorem ofTyped_eq_ok_iff : ofTyped typed = .ok command ↔ Checks typed command := by
  rcases ofTyped_cases typed with ⟨lacks, refused⟩ | ⟨named, lacks, refused⟩ |
    ⟨named, visible, found, accepted, checks⟩
  · rw [refused]
    refine ⟨nofun, fun checks => ?_⟩
    cases checks with
    | method _ named => exact absurd lacks named.not_isBlank
    | signal => exact lacks.elim
    | api => exact lacks.elim
  · rw [refused]
    refine ⟨nofun, fun checks => ?_⟩
    cases checks with
    | method _ _ visible =>
        obtain ⟨signal, member, blank⟩ := lacks
        exact absurd blank (visible signal member)
    | signal visible gathers asked =>
        rcases lacks with rfl | ⟨signal, member, blank⟩
        · rw [(gathers.isEmpty_iff visible).mpr rfl] at asked
          cases asked
        · exact absurd blank (visible signal member)
    | api => exact lacks.elim
  · rw [accepted, Except.ok.injEq]
    constructor
    · rintro rfl
      exact checks
    · exact checks.unique

end Checking

end Command

namespace Run

variable {σ : Type} {world : World σ} {arguments : List RawText}

theorem isEmpty_signals_of_stages {typed : TypedCommand} {command : Command}
    (checks : Command.Checks typed command) (subscribes : .subscription ∈ command.stages) :
    command.signals.isEmpty = false := by
  cases checks with
  | @method _ _ _ signals =>
      cases asked : signals.isEmpty with
      | true => simp [Command.stages, asked] at subscribes
      | false => exact asked
  | signal _ _ asked => exact asked
  | api => cases subscribes

theorem exists_checks_of_command? {command : Command}
    (asked : command? arguments = some command) : ∃ typed, Command.Checks typed command := by
  rw [command?] at asked
  cases read : Run.asked arguments with
  | error stop => simp [read] at asked
  | ok typed =>
      rw [read] at asked
      refine ⟨typed.command, Command.ofTyped_eq_ok_iff.mp ?_⟩
      cases checked : Command.ofTyped typed.command with
      | error error => simp [checked, Except.toOption] at asked
      | ok found => simpa [checked, Except.toOption] using asked

/-- The bus is asked for a subscription only if the command has something to wait for. -/
theorem exists_signals_of_subscribe {output : Sink} {target : Target} {accepted : Bool}
    (subscribes : .request (.subscribe target accepted) ∈
      (ofArguments world arguments output).effects) :
    ∃ command, command? arguments = some command ∧ command.signals.isEmpty = false := by
  have stage : Stage.subscription ∈ itinerary arguments :=
    (stages_prefix_itinerary world arguments output).subset (List.mem_map_of_mem subscribes)
  rw [itinerary] at stage
  cases asked : command? arguments with
  | none => simp [asked, opening] at stage
  | some command =>
      obtain ⟨typed, checks⟩ := exists_checks_of_command? asked
      refine ⟨command, rfl, isEmpty_signals_of_stages checks ?_⟩
      simpa [asked, opening] using stage

/-- A run that only waits has something to wait for. -/
theorem Reaches.isEmpty_signals {format : OutputFormat} {signals : SignalSet} {limit : WaitLimit}
    {session : Session σ} {connection : Connection σ}
    (reaches : Reaches world arguments format (.signal signals limit) session connection) :
    signals.isEmpty = false := by
  obtain ⟨typed, settings, first, -, connects, -⟩ := reaches
  have checks := Command.ofTyped_eq_ok_iff.mp connects.command_eq
  generalize typed.command = command at checks
  cases checks with
  | signal _ _ asked => exact asked

end Run

namespace Wait

/-- Without a limit a wait goes on as long as nothing comes that it wants. -/
theorem run_of_unwanted {wait : Wait} {stream : List (Timed StreamEvent)}
    (unlimited : wait.limit = .never)
    (passes : ∀ timed ∈ stream, ∃ notification, timed.item = .notified notification ∧
      wait.wants notification = false) : wait.run stream = none := by
  induction stream with
  | nil =>
      rw [run_nil, expiry?, unlimited]
      rfl
  | cons first rest ih =>
      obtain ⟨moment, event⟩ := first
      obtain ⟨⟨notification, same, unwanted⟩, later⟩ := List.forall_mem_cons.mp passes
      obtain rfl : event = .notified notification := same
      have reached : wait.inTime moment = true := by
        rw [inTime, unlimited]
        rfl
      rw [run_cons_of_unwanted reached unwanted, ih later]

end Wait

namespace Session

section Nothing

variable {σ : Type} (session : Session σ) (limit : WaitLimit) (connection : Connection σ)

theorem wants_nothing (notification : Notification) :
    (Wait.mk .empty limit).wants notification = false :=
  rfl

/-- A wait for no signals ends with none, whatever comes. -/
theorem wait_empty_ne_done (arrival : Arrival) :
    (session.wait .empty limit connection).1 ≠ .done arrival := by
  have known : session.validate .empty = .ok () := rfl
  rw [wait_eq_armThen]
  cases subscribed : (session.bus.subscribe session.target connection.bus).1 with
  | error reason =>
      rw [(armThen_of_arm_eq_error connection _ (arm_of_refused connection known subscribed).1).1]
      exact nofun
  | ok subscription =>
      rw [armThen_of_arm_eq_ok connection _ (arm_of_accepted connection known subscribed).1,
        waitArmed_fst_eq_run, Ne, Outcome.ofOption_map_item_eq_done_iff]
      rintro ⟨moment, ended⟩
      obtain ⟨passed, taken, unread, ends, -⟩ := Wait.exists_endsWith_of_run_eq ended
      exact Bool.false_ne_true ((wants_nothing limit taken.item).symm.trans ends.wanted)

/-- If nothing but notifications comes, a wait for no signals without a limit has no end. -/
theorem wait_empty_pending {subscription : Nat}
    (accepted : (session.bus.subscribe session.target connection.bus).1 = .ok subscription)
    (notifies : ∀ timed ∈ session.bus.stream subscription
      (session.bus.subscribe session.target connection.bus).2,
      ∃ notification, timed.item = .notified notification) :
    (session.wait .empty .never connection).1 = .pending := by
  obtain ⟨arms, reached⟩ := @arm_of_accepted _ session .empty connection _ rfl accepted
  rw [wait_eq_armThen, armThen_of_arm_eq_ok connection _ arms, waitArmed_fst_eq_run,
    reached.bus_eq, Wait.run_of_unwanted rfl]
  · rfl
  · intro timed member
    obtain ⟨notification, same⟩ := notifies timed member
    exact ⟨notification, same, wants_nothing .never notification⟩

end Nothing

end Session

namespace Command

/-- What was typed is checked before anything is done.  A method without a name is found first,
then a signal without a name and a wait for nothing; all else becomes a command with trimmed
names, each signal once, the arguments as they are, and no limit exactly for zero seconds.  So no
run waits for nothing or subscribes without a signal to wait for, which the session itself would
allow: without a limit such a wait has no end. -/
theorem commands_are_checked :
    (∀ typed : TypedCommand,
      (ofTyped typed = .error .missingMethod ↔ LacksMethod typed) ∧
      (ofTyped typed = .error .missingSignal ↔ ¬LacksMethod typed ∧ LacksSignal typed) ∧
      (∀ command, ofTyped typed = .ok command ↔ Checks typed command) ∧
      (¬LacksMethod typed → ¬LacksSignal typed → ∃ command, ofTyped typed = .ok command)) ∧
    (∀ {σ : Type} (world : World σ) (arguments : List RawText),
      (∀ (format : OutputFormat) (signals : SignalSet) (limit : WaitLimit) (session : Session σ)
        (connection : Connection σ),
        Run.Reaches world arguments format (.signal signals limit) session connection →
          signals.isEmpty = false) ∧
      ∀ (output : Sink) (target : Target) (accepted : Bool),
        .request (.subscribe target accepted) ∈
            (Run.ofArguments world arguments output).effects →
          ∃ command, Run.command? arguments = some command ∧
            command.signals.isEmpty = false) ∧
    ∀ {σ : Type} (session : Session σ) (connection : Connection σ),
      (∀ (limit : WaitLimit) (arrival : Arrival),
        (session.wait .empty limit connection).1 ≠ .done arrival) ∧
      ∀ subscription : Nat,
        (session.bus.subscribe session.target connection.bus).1 = .ok subscription →
        (∀ timed ∈ session.bus.stream subscription
          (session.bus.subscribe session.target connection.bus).2,
          ∃ notification, timed.item = .notified notification) →
        (session.wait .empty .never connection).1 = .pending := by
  refine ⟨fun typed => ?_, fun world arguments => ⟨?_, ?_⟩, fun session connection => ⟨?_, ?_⟩⟩
  · refine ⟨?_, ?_, fun command => ofTyped_eq_ok_iff, ?_⟩
    all_goals
      rcases ofTyped_cases typed with ⟨lacks, refused⟩ | ⟨named, lacks, refused⟩ |
        ⟨named, visible, found, accepted, -⟩
    · simp [refused, lacks]
    · simp [refused, named]
    · simp [accepted, named]
    · simp [refused, lacks]
    · simp [refused, named, lacks]
    · simp [accepted, visible]
    · exact fun named => absurd lacks named
    · exact fun _ visible => absurd lacks visible
    · exact fun _ _ => ⟨found, accepted⟩
  · intro format signals limit session connection reaches
    exact reaches.isEmpty_signals
  · intro output target accepted subscribes
    exact Run.exists_signals_of_subscribe subscribes
  · intro limit arrival
    exact session.wait_empty_ne_done limit connection arrival
  · intro subscription accepted notifies
    exact session.wait_empty_pending connection accepted notifies

/-- Blanks of all kinds are taken away, and what is the same then counts once. -/
example :
    ofTyped (.signal [" \u2003done\n", "begun", "done\u00a0"] 0) =
      .ok (.signal (.ofList ["begun", "done"]) .never) := by
  decide +kernel

end Command

end BusBridge
