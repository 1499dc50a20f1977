import BusBridge.Proofs.CheckedCommands
import BusBridge.Proofs.LayoutReading

/-!
# The place of the options does not matter

However a call is typed, with its options before, between and behind its plain words and each
value in the word of its option or in a word of its own, the same call is understood.
-/

namespace BusBridge

namespace CommandLine

section Groups

theorem CallOption.name_inj {one other : CallOption} :
    one.spec.name = other.spec.name ↔ one = other := by
  cases one <;> cases other <;> decide

theorem values_settled (groups : List OptionGroup) (option : CallOption) (texts : List String) :
    (settled (groups.map OptionGroup.entry) texts).values option.spec.name =
      ((groups.filter fun group => group.option = option).map OptionGroup.value).map
        .ofString := by
  rw [settled, values_taken]
  simp [List.filter_map, Function.comp_def, OptionGroup.entry, CallOption.name_inj]

theorem textsOf_settled (groups : List OptionGroup) (option : CallOption) (texts : List String) :
    textsOf (settled (groups.map OptionGroup.entry) texts) option.spec.name =
      (groups.filter fun group => group.option = option).map OptionGroup.value := by
  rw [textsOf, values_settled, RawText.filterMap_decode?_ofString]

theorem pairwise_entries {groups : List OptionGroup}
    (few : ∀ option, option ≠ .signal →
      (groups.filter fun group => group.option = option).length ≤ 1) :
    (groups.map OptionGroup.entry).Pairwise fun first second =>
      first.1.name = second.1.name → second.1.repeatable = true := by
  induction groups with
  | nil => exact .nil
  | cons group groups ih =>
      rw [List.map_cons, List.pairwise_cons]
      constructor
      · intro later member same
        obtain ⟨other, inside, rfl⟩ := List.mem_map.mp member
        have alike : group.option = other.option := CallOption.name_inj.mp same
        by_cases signal : group.option = .signal
        · rw [alike] at signal
          rw [OptionGroup.entry, signal]
          rfl
        · have bound := few group.option signal
          have found : other ∈ groups.filter fun later => later.option = group.option := by
            simp [inside, alike]
          have positive := List.length_pos_of_mem found
          rw [List.filter_cons_of_pos (by simp), List.length_cons] at bound
          omega
      · refine ih fun option other => Nat.le_trans ?_ (few option other)
        exact (List.sublist_cons_self group groups).filter _ |>.length_le

end Groups

namespace Layout

variable {layout : Layout} {call : Call}

/-- The options after the command. -/
def inner (layout : Layout) : List OptionGroup :=
  layout.items.filterMap LayoutItem.group?

theorem value_mem_values {group : OptionGroup} (member : group ∈ layout.groups) :
    group.value ∈ layout.values group.option :=
  List.mem_map_of_mem (List.mem_filter.mpr ⟨member, by simp⟩)

namespace Types

theorem legal (types : layout.Types call) : ∀ group ∈ layout.groups,
    group.option.spec.rule.check group.option.spec.usage (.ofString group.value) = .ok () := by
  intro group member
  have known := value_mem_values member
  cases option : group.option with
  | output =>
      rw [option, types.output_eq, Option.mem_toList] at known
      obtain ⟨format, -, word⟩ := Option.mem_map.mp known
      rw [← word]
      exact check_output format
  | signal => exact ValueRule.check_text _ group.value
  | signalTimeout =>
      rw [option, types.timeout_eq, Option.mem_toList] at known
      obtain ⟨seconds, -, text⟩ := Option.mem_map.mp known
      rw [← text]
      simp [CallOption.spec, signalTimeoutOption, ValueRule.check, seconds.reads]

theorem few (types : layout.Types call) {option : CallOption} (other : option ≠ .signal) :
    (layout.groups.filter fun group => group.option = option).length ≤ 1 := by
  rw [← List.length_map OptionGroup.value]
  change (layout.values option).length ≤ 1
  cases option with
  | output =>
      rw [types.output_eq]
      cases call.format? <;> simp
  | signal => exact absurd rfl other
  | signalTimeout =>
      rw [types.timeout_eq]
      cases call.timeout? <;> simp

theorem givable {level : Level} {groups : List OptionGroup} (types : layout.Types call)
    (part : groups.Sublist layout.groups)
    (listed : ∀ group ∈ groups, group.option.spec ∈ level.options) :
    Givable level (groups.map OptionGroup.entry) where
  listed := by
    intro entry member
    obtain ⟨group, inside, rfl⟩ := List.mem_map.mp member
    exact listed group inside
  legal := by
    intro entry member
    obtain ⟨group, inside, rfl⟩ := List.mem_map.mp member
    exact types.legal group (part.mem inside)
  once := pairwise_entries fun option other =>
    Nat.le_trans (part.filter _).length_le (types.few other)

theorem givable_front (types : layout.Types call) :
    Givable programLevel (layout.front.map OptionGroup.entry) := by
  refine types.givable (List.sublist_append_left _ _) fun group member => ?_
  rw [types.front_output group member]
  exact List.mem_singleton_self _

theorem givable_inner (types : layout.Types call) :
    Givable methodLevel (layout.inner.map OptionGroup.entry) := by
  refine types.givable (List.sublist_append_right _ _) fun group member => ?_
  cases group.option <;> simp [CallOption.spec, methodLevel]

theorem orderly (types : layout.Types call) (typable : call.Typable) :
    Orderly layout.plainWords := by
  rw [types.plain_eq]
  exact ⟨typable.name_plain, typable.arguments_plain⟩

/-- The words after the command are read as the options after it and the plain words. -/
theorem read_method (types : layout.Types call) (typable : call.Typable) :
    methodLevel.read ((layout.items.flatMap LayoutItem.words).map .ofString) =
      .ok (settled (layout.inner.map OptionGroup.entry) (call.name :: call.arguments)) := by
  have apart : ∀ group ∈ layout.inner, group.joined = false → ¬Dashed group.value :=
    fun group member => types.apart_plain group (List.mem_append_right _ member)
  obtain ⟨next, read, reached⟩ := Progress.Reads.start.items types.givable_inner apart
    (types.orderly typable)
  rw [List.nil_append, ← inner, ← plainWords, types.plain_eq] at reached
  rw [Level.read, read]
  dsimp only
  rw [reached.finish (List.cons_ne_nil _ _)]
  rfl

theorem readHeading_words (types : layout.Types call) :
    ∃ outer,
      readHeading .start (layout.words.map .ofString) =
          .ok (.command outer .method ((layout.items.flatMap LayoutItem.words).map .ofString)) ∧
        outer.resolve = .ok (settled (layout.front.map OptionGroup.entry) []) := by
  have apart : ∀ group ∈ layout.front, group.joined = false → ¬Dashed group.value :=
    fun group member => types.apart_plain group (List.mem_append_left _ member)
  obtain ⟨outer, heading, reached⟩ :=
    readHeading_front Progress.Reads.start types.givable_front apart
  refine ⟨outer, ?_, reached.settles⟩
  rw [words, List.map_append, List.map_cons, heading, readHeading_command reached]

theorem values_inner (types : layout.Types call) {option : CallOption} (other : option ≠ .output) :
    (layout.inner.filter fun group => group.option = option).map OptionGroup.value =
      layout.values option := by
  have none : layout.front.filter (fun group => group.option = option) = [] := by
    rw [List.filter_eq_nil_iff]
    intro group member
    simp [types.front_output group member, other.symm]
  rw [values, groups, List.filter_append, none, List.nil_append, inner]

theorem secondsOf_eq (types : layout.Types call) (texts : List String) :
    secondsOf (settled (layout.inner.map OptionGroup.entry) texts) .signalTimeout =
      (call.timeout?.map SpeltSeconds.count).getD 0 := by
  have given := values_settled layout.inner .signalTimeout texts
  rw [types.values_inner (by decide), types.timeout_eq] at given
  rw [secondsOf, show OptionName.signalTimeout = CallOption.signalTimeout.spec.name from rfl,
    given]
  cases call.timeout? with
  | none => rfl
  | some seconds => simp [seconds.reads, SpeltSeconds.count]

theorem ofWord?_word (format : OutputFormat) : OutputFormat.ofWord? format.word = some format := by
  cases format <;> rfl

/-- The option for the format stands before the command or after it, and is found there. -/
theorem format_eq (types : layout.Types call) (texts : List String) :
    ((formatOf? (settled (layout.inner.map OptionGroup.entry) texts)).or
      (formatOf? (settled (layout.front.map OptionGroup.entry) []))).getD .human = call.format := by
  have output : OptionName.output = CallOption.output.spec.name := rfl
  have given := types.output_eq
  rw [formatOf?, formatOf?, output, textsOf_settled, textsOf_settled]
  rw [values, groups, List.filter_append, List.map_append, ← inner] at given
  cases chosen : call.format? with
  | none =>
      rw [chosen] at given
      obtain ⟨front, inner⟩ := List.append_eq_nil_iff.mp given
      rw [front, inner, Call.format, chosen]
      rfl
  | some format =>
      rw [chosen] at given
      rcases List.append_eq_singleton_iff.mp given with ⟨front, inner⟩ | ⟨front, inner⟩
      · simp [front, inner, Call.format, chosen, ofWord?_word]
      · simp [front, inner, Call.format, chosen, ofWord?_word]

theorem typedCommand_eq (types : layout.Types call) :
    typedCommand .method
        (settled (layout.inner.map OptionGroup.entry) (call.name :: call.arguments)) =
      .method call.name call.arguments (layout.values .signal)
        ((call.timeout?.map SpeltSeconds.count).getD 0) := by
  have words : wordsOf (settled (layout.inner.map OptionGroup.entry)
      (call.name :: call.arguments)) = call.name :: call.arguments :=
    RawText.filterMap_decode?_ofString _
  have signal : OptionName.signal = CallOption.signal.spec.name := rfl
  rw [typedCommand, words, types.secondsOf_eq, signal, textsOf_settled,
    types.values_inner (by decide)]
  rfl

/-- What was typed is what the call asks for. -/
theorem ofTyped_eq (types : layout.Types call) (typable : call.Typable) :
    Command.ofTyped (.method call.name call.arguments (layout.values .signal)
        ((call.timeout?.map SpeltSeconds.count).getD 0)) = .ok call.command := by
  have visible : ∀ signal ∈ layout.values .signal, ¬Text.IsBlank signal := fun signal member =>
    typable.signals_visible signal ((types.signals_iff signal).mp member)
  have same : SignalSet.ofList ((layout.values .signal).map Text.trim) =
      .ofList (call.signals.map Text.trim) := by
    apply SignalSet.eq_of_contains
    simp [SignalSet.contains_ofList, types.signals_iff]
  rw [Command.ofTyped_method_of_visible _ _ typable.name_visible visible, same]
  rfl

end Types

end Layout

end CommandLine

namespace Run

open CommandLine

/-- The command line asks for the command, with its results in the format. -/
def Asks (arguments : List RawText) (command : Command) (format : OutputFormat) : Prop :=
  ∃ typed, asked arguments = .ok typed ∧ typed.format = format ∧
    Command.ofTyped typed.command = .ok command

section Layouts

variable {layout : Layout} {call : Call}

theorem flagShape_output : flagShape (.ofString "--output") = .none := by
  decide +kernel

theorem flagShape_assign_output (value : String) :
    flagShape (.ofString (outputOption.assign value)) = .none := by
  have name : (0x3D : UInt8) ∉ (RawText.ofString "--output").bytes := by decide +kernel
  have unlisted : (configFlags.any fun flag =>
      RawText.ofString flag = ⟨(RawText.ofString "--output").bytes⟩) = false := by
    decide +kernel
  have bytes : (RawText.ofString (outputOption.assign value)).bytes =
      (RawText.ofString "--output").bytes ++ 0x3D :: (RawText.ofString value).bytes := by
    have equals : (RawText.ofString "=").bytes = [0x3D] := by decide +kernel
    have parts : outputOption.assign value = "--output" ++ "=" ++ value := rfl
    rw [parts, RawText.bytes_append, RawText.bytes_append, equals, List.append_assoc]
    rfl
  rw [flagShape, bytes, RawText.splitAtEquals_append name]
  simp only [unlisted, Bool.false_eq_true, if_false]

/-- There are no configuration flags before the command. -/
theorem splitWords_layout (types : layout.Types call) :
    splitWords (layout.words.map .ofString) = ([], layout.words.map .ofString) := by
  rw [Layout.words]
  cases front : layout.front with
  | nil => exact splitWords_of_none (flagShape_word .method) _
  | cons group rest =>
      have output : group.option = .output := types.front_output group (by simp [front])
      rw [List.flatMap_cons, OptionGroup.words, output]
      split
      next => exact splitWords_of_none (flagShape_assign_output group.value) _
      next => exact splitWords_of_none flagShape_output _

theorem asked_layout (types : layout.Types call) (typable : call.Typable) (program : RawText) :
    asked (layout.line program) =
      .ok ⟨.method call.name call.arguments (layout.values .signal)
        ((call.timeout?.map SpeltSeconds.count).getD 0), call.format⟩ := by
  obtain ⟨outer, heading, resolved⟩ := types.readHeading_words
  have whole : (Split.ofArguments (layout.line program)).commandArguments
      (layout.line program) = layout.line program := by
    rw [Layout.line, Split.ofArguments, splitWords_layout types]
    rfl
  rw [asked, Run.words, whole, Layout.line, CommandLine.read, List.tail_cons, readWords, heading]
  simp only [CommandName.level, types.read_method typable, resolved, types.typedCommand_eq,
    types.format_eq]

/-- However a call is typed, the same is understood: the name and the signals without the blanks
around them, the arguments as they are and in order, and the limit and the format, or what
stands for them where they are not given. -/
theorem option_places_do_not_matter {call : Call} (typable : call.Typable) {layout : Layout}
    (types : layout.Types call) (program : RawText) :
    flags (layout.line program) = [program] ∧
      (∀ command format, Asks (layout.line program) command format ↔
        command = call.command ∧ format = call.format) ∧
      ∀ other : Layout, other.Types call → ∀ command format,
        Asks (other.line program) command format ↔ Asks (layout.line program) command format := by
  have asks {layout : Layout} (types : layout.Types call) (command : Command)
      (format : OutputFormat) :
      Asks (layout.line program) command format ↔
        command = call.command ∧ format = call.format := by
    rw [Asks, asked_layout types typable]
    have understood := types.ofTyped_eq typable
    constructor
    · rintro ⟨typed, read, rfl, made⟩
      obtain rfl := Except.ok.inj read
      exact ⟨Except.ok.inj (made.symm.trans understood), rfl⟩
    · rintro ⟨rfl, rfl⟩
      exact ⟨_, rfl, rfl, understood⟩
  refine ⟨?_, asks types, fun other typesOther command format => ?_⟩
  · rw [flags, Layout.line, Split.ofArguments, splitWords_layout types]
  · rw [asks types, asks typesOther]

def sevenSeconds : SpeltSeconds :=
  ⟨"7", ⟨7, by decide⟩, by decide +kernel⟩

def shiftCall : Call :=
  ⟨"pfmShift ", ["-5", "x"], ["done"], some sevenSeconds, some .json⟩

/-- The options stand before the command, before the name and between the arguments. -/
def shiftLayout : Layout where
  front := [⟨.output, "json", false⟩]
  items := [.option ⟨.signal, "done", false⟩, .plain "pfmShift ", .plain "-5",
    .option ⟨.signalTimeout, "7", true⟩, .plain "x"]

theorem typable_shiftCall : shiftCall.Typable where
  name_visible := fun blank => by
    have letter := blank 'p' (by decide)
    cases letter
  name_plain := by decide
  arguments_plain := by
    have five : IsNegativeNumber "-5" :=
      ⟨['5'], [], [], by decide, by decide, by decide, .inl rfl, .inl rfl⟩
    simpa [shiftCall] using ⟨.inr five, .inl (by decide)⟩
  signals_visible := by
    rintro signal member blank
    obtain rfl := List.mem_singleton.mp member
    have letter := blank 'd' (by decide)
    cases letter

theorem types_shiftLayout : shiftLayout.Types shiftCall where
  plain_eq := rfl
  signals_iff := fun _ => Iff.rfl
  timeout_eq := rfl
  output_eq := rfl
  front_output := by decide
  apart_plain := by decide

theorem shift_is_understood :
    shiftCall.Typable ∧ shiftLayout.Types shiftCall ∧
      shiftLayout.line (.ofString "ndb-cli") = ["ndb-cli", "--output", "json", "method",
        "--signal", "done", "pfmShift ", "-5", "--signal-timeout=7", "x"].map .ofString ∧
      Asks (shiftLayout.line (.ofString "ndb-cli"))
        (.method "pfmShift" ["-5", "x"] (.ofList ["done"]) (.ofSeconds 7)) .json := by
  refine ⟨typable_shiftCall, types_shiftLayout, by decide +kernel, ?_⟩
  obtain ⟨-, asks, -⟩ := option_places_do_not_matter typable_shiftCall types_shiftLayout
    (.ofString "ndb-cli")
  exact (asks _ _).mpr ⟨by decide +kernel, rfl⟩

end Layouts

end Run

end BusBridge
