import BusBridge.Proofs.LeadingFlags
import BusBridge.Proofs.ReadableText

/-!
# The split of a command line is an exact parse

A command line is a row of configuration flags with their values, and then the command.  There
is one way only to see it so, and the split finds it, byte for byte, whether or not the words
are UTF-8.
-/

namespace BusBridge

namespace CommandLine

/-- A configuration flag with its value. -/
inductive FlagGroup
  /-- The flag and its value in one word. -/
  | joined (flag : String) (value : List UInt8)
  /-- The flag, and its value in the next word. -/
  | separate (flag : String) (value : RawText)
  /-- The flag without a value. -/
  | unfinished (flag : String)

namespace FlagGroup

def flag : FlagGroup → String
  | joined flag _ => flag
  | separate flag _ => flag
  | unfinished flag => flag

def words : FlagGroup → List RawText
  | joined flag value => [⟨(RawText.ofString flag).bytes ++ 0x3D :: value⟩]
  | separate flag value => [.ofString flag, value]
  | unfinished flag => [.ofString flag]

end FlagGroup

/-- The words are these groups and the command after them.  A value is missing only at the
very end. -/
structure Decomposes (words : List RawText) (groups : List FlagGroup) (command : List RawText) :
    Prop where
  known : ∀ group ∈ groups, group.flag ∈ configFlags
  whole : words = groups.flatMap FlagGroup.words ++ command
  finished : ∀ (before after : List FlagGroup) (flag : String),
    groups = before ++ .unfinished flag :: after → after = [] ∧ command = []
  ends : ∀ word, command.head? = some word → ¬ BeginsGroup word

namespace FlagGroup

section Distinct

variable {flag other : String} {value text : List UInt8}

theorem joined_ne_ofString (known : flag ∈ configFlags) (recognized : other ∈ configFlags)
    (value : List UInt8) :
    (⟨(RawText.ofString flag).bytes ++ 0x3D :: value⟩ : RawText) ≠ .ofString other := by
  intro same
  have shapes := congrArg flagShape same
  rw [flagShape_joined known, flagShape_ofString recognized] at shapes
  cases shapes

theorem joined_injective (known : flag ∈ configFlags) (recognized : other ∈ configFlags)
    (same : (RawText.ofString flag).bytes ++ 0x3D :: value =
      (RawText.ofString other).bytes ++ 0x3D :: text) : flag = other ∧ value = text := by
  have parts := congrArg RawText.splitAtEquals same
  rw [RawText.splitAtEquals_append (equals_not_mem_flag known),
    RawText.splitAtEquals_append (equals_not_mem_flag recognized), Prod.mk.injEq,
    Option.some.injEq] at parts
  exact ⟨RawText.ofString_injective (congrArg RawText.mk parts.1), parts.2⟩

end Distinct

/-- The words tell what the first group is and where it ends. -/
theorem eq_of_words_append {first second : FlagGroup} {rest further : List RawText}
    (known : first.flag ∈ configFlags) (recognized : second.flag ∈ configFlags)
    (ended : ∀ flag, first = .unfinished flag → rest = [])
    (stopped : ∀ flag, second = .unfinished flag → further = [])
    (same : first.words ++ rest = second.words ++ further) :
    first = second ∧ rest = further := by
  cases first with
  | joined flag value =>
      cases second with
      | joined other text =>
          obtain ⟨here, later⟩ := List.cons.inj same
          obtain ⟨rfl, rfl⟩ := joined_injective known recognized (congrArg RawText.bytes here)
          exact ⟨rfl, later⟩
      | separate other text =>
          exact absurd (List.cons.inj same).1 (joined_ne_ofString known recognized value)
      | unfinished other =>
          exact absurd (List.cons.inj same).1 (joined_ne_ofString known recognized value)
  | separate flag value =>
      cases second with
      | joined other text =>
          exact absurd (List.cons.inj same).1.symm (joined_ne_ofString recognized known text)
      | separate other text =>
          obtain ⟨here, values⟩ := List.cons.inj same
          obtain ⟨rfl, later⟩ := List.cons.inj values
          obtain rfl := RawText.ofString_injective here
          exact ⟨rfl, later⟩
      | unfinished other =>
          obtain rfl := stopped other rfl
          cases (List.cons.inj same).2
  | unfinished flag =>
      obtain rfl := ended flag rfl
      cases second with
      | joined other text =>
          exact absurd (List.cons.inj same).1.symm (joined_ne_ofString recognized known text)
      | separate other text => cases (List.cons.inj same).2
      | unfinished other =>
          obtain ⟨here, later⟩ := List.cons.inj same
          obtain rfl := RawText.ofString_injective here
          exact ⟨rfl, later⟩

end FlagGroup

section Words

variable {flag : String} {word : RawText} {rest : List RawText}

theorem splitWords_of_complete (shape : flagShape word = .complete) (rest : List RawText) :
    splitWords (word :: rest) = (word :: (splitWords rest).1, (splitWords rest).2) := by
  cases rest with
  | nil =>
      change splitWords [word] = ([word], [])
      rw [splitWords, if_neg (by rw [shape]; decide)]
  | cons second rest => rw [splitWords, shape]

theorem splitWords_of_needsValue (shape : flagShape word = .needsValue) (value : RawText)
    (rest : List RawText) :
    splitWords (word :: value :: rest) =
      (word :: value :: (splitWords rest).1, (splitWords rest).2) := by
  rw [splitWords, shape]

theorem splitWords_of_last (shape : flagShape word = .needsValue) :
    splitWords [word] = ([word], []) := by
  rw [splitWords, if_neg (by rw [shape]; decide)]

theorem flagShape_of_not_beginsGroup (plain : ¬ BeginsGroup word) : flagShape word = .none := by
  rcases flagShape_cases word with ⟨shape, -⟩ | ⟨-, flag, known, value, rfl⟩ |
    ⟨-, flag, known, rfl⟩
  · exact shape
  · exact absurd ⟨flag, known, .inr ⟨value, rfl⟩⟩ plain
  · exact absurd ⟨flag, known, .inl rfl⟩ plain

/-- Words that begin no group are the command. -/
theorem splitWords_of_ends (ends : ∀ word, rest.head? = some word → ¬ BeginsGroup word) :
    splitWords rest = ([], rest) := by
  cases rest with
  | nil => rfl
  | cons word rest =>
      exact splitWords_of_none (flagShape_of_not_beginsGroup (ends word rfl)) rest

end Words

namespace Decomposes

variable {words command others : List RawText} {groups : List FlagGroup} {group : FlagGroup}

theorem nil (ends : ∀ word, words.head? = some word → ¬ BeginsGroup word) :
    Decomposes words [] words where
  known := List.forall_mem_nil _
  whole := rfl
  finished before after flag same := by
    rw [List.nil_eq_append_iff] at same
    cases same.2
  ends := ends

theorem last {flag : String} (known : flag ∈ configFlags) :
    Decomposes [.ofString flag] [.unfinished flag] [] where
  known := by simpa [FlagGroup.flag] using known
  whole := rfl
  finished before after flag same := by
    rw [List.singleton_eq_append_iff] at same
    rcases same with ⟨-, same⟩ | ⟨-, same⟩
    · exact ⟨(List.cons.inj same).2, rfl⟩
    · cases same
  ends := nofun

theorem cons (known : group.flag ∈ configFlags) (complete : ∀ flag, group ≠ .unfinished flag)
    (parse : Decomposes words groups command) :
    Decomposes (group.words ++ words) (group :: groups) command where
  known := List.forall_mem_cons.mpr ⟨known, parse.known⟩
  whole := by rw [List.flatMap_cons, List.append_assoc, ← parse.whole]
  finished before after flag same := by
    rcases List.cons_eq_append_iff.mp same with ⟨-, same⟩ | ⟨further, -, same⟩
    · exact absurd (List.cons.inj same).1.symm (complete flag)
    · exact parse.finished further after flag same
  ends := parse.ends

theorem joined {flag : String} (known : flag ∈ configFlags) (value : List UInt8)
    (parse : Decomposes words groups command) :
    Decomposes (⟨(RawText.ofString flag).bytes ++ 0x3D :: value⟩ :: words)
      (.joined flag value :: groups) command :=
  @cons words command groups (.joined flag value) known nofun parse

theorem separate {flag : String} (known : flag ∈ configFlags) (value : RawText)
    (parse : Decomposes words groups command) :
    Decomposes (.ofString flag :: value :: words) (.separate flag value :: groups) command :=
  @cons words command groups (.separate flag value) known nofun parse

theorem tail (parse : Decomposes words (group :: groups) command) :
    Decomposes (groups.flatMap FlagGroup.words ++ command) groups command where
  known := fun other member => parse.known other (List.mem_cons_of_mem _ member)
  whole := rfl
  finished before after flag same :=
    parse.finished (group :: before) after flag (by rw [same, List.cons_append])
  ends := parse.ends

/-- Nothing follows a flag without its value. -/
theorem of_unfinished {flag : String}
    (parse : Decomposes words (.unfinished flag :: groups) command) :
    groups = [] ∧ command = [] :=
  parse.finished [] groups flag rfl

/-- However the words are seen as groups and a command, this is where they are split. -/
theorem splitWords_eq (parse : Decomposes words groups command) :
    splitWords words = (groups.flatMap FlagGroup.words, command) := by
  induction groups generalizing words with
  | nil =>
      rw [parse.whole]
      exact splitWords_of_ends parse.ends
  | cons group rest ih =>
      have known := parse.known group List.mem_cons_self
      have further := ih parse.tail
      rw [parse.whole, List.flatMap_cons, List.append_assoc]
      cases group with
      | joined flag value =>
          have split := splitWords_of_complete (flagShape_joined known value)
            (rest.flatMap FlagGroup.words ++ command)
          rw [further] at split
          exact split
      | separate flag value =>
          have split := splitWords_of_needsValue (flagShape_ofString known) value
            (rest.flatMap FlagGroup.words ++ command)
          rw [further] at split
          exact split
      | unfinished flag =>
          obtain ⟨rfl, rfl⟩ := parse.of_unfinished
          exact splitWords_of_last (flagShape_ofString known)

/-- The first word of a group begins it. -/
theorem beginsGroup_of_cons (parse : Decomposes words (group :: groups) command) :
    ∃ word, words.head? = some word ∧ BeginsGroup word := by
  have known := parse.known group List.mem_cons_self
  rw [parse.whole]
  cases group with
  | joined flag value => exact ⟨_, rfl, flag, known, .inr ⟨value, rfl⟩⟩
  | separate flag value => exact ⟨_, rfl, flag, known, .inl rfl⟩
  | unfinished flag => exact ⟨_, rfl, flag, known, .inl rfl⟩

theorem groups_unique {others : List FlagGroup} (parse : Decomposes words groups command)
    (again : Decomposes words others command) : others = groups := by
  induction groups generalizing words others with
  | nil =>
      cases others with
      | nil => rfl
      | cons group rest =>
          obtain ⟨word, first, begins⟩ := again.beginsGroup_of_cons
          rw [parse.whole] at first
          exact absurd begins (parse.ends word first)
  | cons group rest ih =>
      cases others with
      | nil =>
          obtain ⟨word, first, begins⟩ := parse.beginsGroup_of_cons
          rw [again.whole] at first
          exact absurd begins (again.ends word first)
      | cons other further =>
          have ended (flag : String) (last : group = .unfinished flag) :
              rest.flatMap FlagGroup.words ++ command = [] := by
            obtain ⟨rfl, rfl⟩ := parse.finished [] rest flag (by rw [last, List.nil_append])
            rfl
          have stopped (flag : String) (last : other = .unfinished flag) :
              further.flatMap FlagGroup.words ++ command = [] := by
            obtain ⟨rfl, rfl⟩ := again.finished [] further flag (by rw [last, List.nil_append])
            rfl
          have whole := parse.whole.symm.trans again.whole
          rw [List.flatMap_cons, List.flatMap_cons, List.append_assoc, List.append_assoc] at whole
          obtain ⟨rfl, later⟩ := FlagGroup.eq_of_words_append
            (parse.known group List.mem_cons_self) (again.known other List.mem_cons_self)
            ended stopped whole
          have twin := again.tail
          rw [← later] at twin
          rw [ih parse.tail twin]

/-- There is one way only to see words as groups and a command. -/
theorem unique {others : List FlagGroup} {rest : List RawText}
    (parse : Decomposes words groups command) (again : Decomposes words others rest) :
    others = groups ∧ rest = command := by
  have split := again.splitWords_eq.symm.trans parse.splitWords_eq
  obtain rfl := (Prod.mk.inj split).2
  exact ⟨parse.groups_unique again, rfl⟩

end Decomposes

/-- Every row of words can be seen as groups and a command. -/
theorem exists_decomposes (words : List RawText) :
    ∃ groups command, Decomposes words groups command := by
  have noCommand : ∀ first, ([] : List RawText).head? = some first → ¬BeginsGroup first := by
    rintro first ⟨⟩
  fun_induction splitWords words with
  | case1 => exact ⟨[], [], .nil noCommand⟩
  | case2 word plain =>
      refine ⟨[], [word], .nil ?_⟩
      rintro first ⟨⟩
      exact not_beginsGroup plain
  | case3 word shape =>
      rcases flagShape_cases word with ⟨plain, -⟩ | ⟨-, flag, known, value, rfl⟩ |
        ⟨-, flag, known, rfl⟩
      · exact absurd plain shape
      · exact ⟨[.joined flag value], [], .joined known value (.nil noCommand)⟩
      · exact ⟨[.unfinished flag], [], .last known⟩
  | case4 word second rest plain =>
      refine ⟨[], word :: second :: rest, .nil ?_⟩
      rintro first ⟨⟩
      exact not_beginsGroup plain
  | case5 word second rest shape config command split ih =>
      obtain ⟨groups, command, parse⟩ := ih
      obtain ⟨flag, known, value, rfl⟩ := exists_joined shape
      exact ⟨.joined flag value :: groups, command, .joined known value parse⟩
  | case6 word second rest shape config command split ih =>
      obtain ⟨groups, command, parse⟩ := ih
      obtain ⟨flag, known, rfl⟩ := exists_flag shape
      exact ⟨.separate flag second :: groups, command, .separate known second parse⟩

/-- The shape of a word as far as it can be told from its readable text. -/
def FlagShape.ofText (text : String) : FlagShape :=
  if ['-', '-'].isPrefixOf text.toList then
    if configFlags.any fun flag => flag.toList = text.toList.takeWhile (· ≠ '=') then
      if text.toList.contains '=' then .complete else .needsValue
    else .none
  else .none

section ReadableText

variable {flag : String} {word : RawText}

theorem isPlain_of_mem_flag : ∀ flag ∈ configFlags, ∀ character ∈ flag.toList,
    RawText.IsPlain character ∧ character ≠ '=' := by
  have all : (configFlags.all fun flag => flag.toList.all fun character =>
      decide (RawText.IsPlain character ∧ character ≠ '=')) = true := by
    decide +kernel
  intro flag listed character member
  have allPlain := List.all_eq_true.mp all flag listed
  exact of_decide_eq_true (List.all_eq_true.mp allPlain character member)

theorem bytes_flag : ∀ flag ∈ configFlags,
    (RawText.ofString flag).bytes = flag.toList.map RawText.byteOf := by
  decide +kernel

theorem dashes_isPrefixOf_flag : ∀ flag ∈ configFlags,
    ['-', '-'].isPrefixOf flag.toList = true := by
  decide +kernel

/-- The readable text of a word starts with a flag if the word does. -/
theorem lossyChars_eq_flag_append_iff (known : flag ∈ configFlags) {bytes : List UInt8}
    {others : List Char} :
    RawText.lossyChars bytes = flag.toList ++ others ↔
      ∃ rest, bytes = (RawText.ofString flag).bytes ++ rest ∧ RawText.lossyChars rest = others := by
  rw [bytes_flag flag known]
  exact RawText.lossyChars_eq_append_iff
    fun character member => (isPlain_of_mem_flag flag known character member).1

theorem lossyChars_eq_equals_iff {bytes : List UInt8} {others : List Char} :
    RawText.lossyChars bytes = '=' :: others ↔
      ∃ rest, bytes = 0x3D :: rest ∧ RawText.lossyChars rest = others :=
  RawText.lossyChars_eq_cons_iff (by decide)

/-- A text that is a flag, alone or before an equals sign, has the shape of one. -/
theorem ofText_of_flag_append (known : flag ∈ configFlags) {text : String} {others : List Char}
    (starts : text.toList = flag.toList ++ others)
    (ends : ∀ character, others.head? = some character → character = '=') :
    FlagShape.ofText text = if others.isEmpty then .needsValue else .complete := by
  have dashes : ['-', '-'].isPrefixOf (flag.toList ++ others) = true := by
    rw [List.isPrefixOf_iff_prefix]
    have flagged := List.isPrefixOf_iff_prefix.mp (dashes_isPrefixOf_flag flag known)
    exact flagged.trans (List.prefix_append _ _)
  have before : ∀ character ∈ flag.toList, character ≠ '=' :=
    fun character member => (isPlain_of_mem_flag flag known character member).2
  have name : (flag.toList ++ others).takeWhile (· ≠ '=') = flag.toList := by
    rw [List.takeWhile_append_of_pos fun character member =>
      decide_eq_true (before character member)]
    cases others with
    | nil => simp
    | cons character rest => simp [ends character rfl]
  have listed : configFlags.any (fun other => other.toList = flag.toList) = true :=
    List.any_eq_true.mpr ⟨flag, known, decide_eq_true rfl⟩
  rw [FlagShape.ofText, starts, dashes, name, listed]
  cases others with
  | nil =>
      have without : (flag.toList ++ []).contains '=' = false := by
        simpa using fun member => before '=' member rfl
      rw [without]
      rfl
  | cons character rest =>
      obtain rfl := ends character rfl
      have within : (flag.toList ++ '=' :: rest).contains '=' = true := by simp
      rw [within]
      rfl

/-- Only such texts do. -/
theorem exists_flag_append_of_ofText {text : String} (shape : FlagShape.ofText text ≠ .none) :
    ∃ flag ∈ configFlags, ∃ others, text.toList = flag.toList ++ others ∧
      ∀ character, others.head? = some character → character = '=' := by
  rw [FlagShape.ofText] at shape
  split at shape
  · split at shape
    · next listed =>
        obtain ⟨flag, known, name⟩ := List.any_eq_true.mp listed
        refine ⟨flag, known, text.toList.dropWhile (· ≠ '='), ?_, ?_⟩
        · rw [of_decide_eq_true name, List.takeWhile_append_dropWhile]
        · intro character first
          have stops := List.head?_dropWhile_not (· ≠ '=') text.toList
          rw [first] at stops
          simpa using stops
    · exact absurd rfl shape
  · exact absurd rfl shape

/-- A replacement for bytes that are not UTF-8 neither makes a flag nor breaks one. -/
theorem flagShape_eq_ofText (word : RawText) : flagShape word = .ofText word.lossy := by
  have text (bytes : List UInt8) :
      (RawText.lossy ⟨bytes⟩).toList = RawText.lossyChars bytes := String.toList_ofList
  rcases flagShape_cases word with ⟨shape, plain⟩ | ⟨shape, flag, known, value, rfl⟩ |
    ⟨shape, flag, known, rfl⟩
  · rw [shape]
    by_cases none : FlagShape.ofText word.lossy = .none
    · exact none.symm
    · obtain ⟨flag, known, others, shown, ends⟩ := exists_flag_append_of_ofText none
      rw [text] at shown
      obtain ⟨rest, whole, further⟩ := (lossyChars_eq_flag_append_iff known).mp shown
      refine absurd ⟨flag, known, ?_⟩ plain
      cases others with
      | nil =>
          obtain rfl := RawText.lossyChars_eq_nil_iff.mp further
          exact .inl (congrArg RawText.mk (whole.trans (List.append_nil _)))
      | cons character others =>
          obtain rfl := ends character rfl
          obtain ⟨value, rfl, -⟩ := lossyChars_eq_equals_iff.mp further
          exact .inr ⟨value, congrArg RawText.mk whole⟩
  · have shown : RawText.lossyChars ((RawText.ofString flag).bytes ++ 0x3D :: value) =
        flag.toList ++ '=' :: RawText.lossyChars value :=
      (lossyChars_eq_flag_append_iff known).mpr
        ⟨_, rfl, lossyChars_eq_equals_iff.mpr ⟨value, rfl, rfl⟩⟩
    rw [shape, ofText_of_flag_append known ((text _).trans shown) (by simp [eq_comm])]
    rfl
  · have shown : RawText.lossyChars (RawText.ofString flag).bytes = flag.toList ++ [] :=
      (lossyChars_eq_flag_append_iff known).mpr
        ⟨[], (List.append_nil _).symm, RawText.lossyChars_eq_nil_iff.mpr rfl⟩
    rw [shape, ofText_of_flag_append known ((text _).trans shown) nofun]
    rfl

end ReadableText

namespace Decomposes

variable {words command : List RawText} {groups : List FlagGroup}

/-- The command holds no groups. -/
theorem of_command (parse : Decomposes words groups command) : Decomposes command [] command :=
  .nil parse.ends

/-- The groups are groups without the command, too. -/
theorem of_groups (parse : Decomposes words groups command) :
    Decomposes (groups.flatMap FlagGroup.words) groups [] where
  known := parse.known
  whole := (List.append_nil _).symm
  finished before after flag same := ⟨(parse.finished before after flag same).1, rfl⟩
  ends := nofun

/-- What comes after the first word of the command does not matter. -/
theorem of_first {first : RawText} {others : List RawText} (further : List RawText)
    (parse : Decomposes words groups (first :: others)) :
    Decomposes (groups.flatMap FlagGroup.words ++ first :: further) groups (first :: further) where
  known := parse.known
  whole := rfl
  finished before after flag same := by
    cases (parse.finished before after flag same).2
  ends word starts := parse.ends word starts

theorem ofArguments_eq (parse : Decomposes words groups command) (program : RawText) :
    Split.ofArguments (program :: words) = ⟨program :: groups.flatMap FlagGroup.words,
      (groups.flatMap FlagGroup.words).length + 1⟩ := by
  rw [Split.ofArguments, parse.splitWords_eq]

theorem commandArguments_eq (parse : Decomposes words groups command) (program : RawText) :
    (Split.ofArguments (program :: words)).commandArguments (program :: words) =
      program :: command := by
  rw [parse.ofArguments_eq, Split.commandArguments, List.drop_succ_cons, parse.whole,
    List.drop_left]
  rfl

end Decomposes

/-- The split of a command line is an exact parse.  The words after the name of the program are
groups and a command in one way only; the split gives the one and the other with the name in
front, and nothing is lost.  Each part splits into itself, what comes after the first word of
the command has no part in the flags, and words that are not UTF-8 may be judged by their
readable text. -/
theorem split_is_exact_parse :
    (∀ (program : RawText) (words : List RawText), ∃ groups command,
      Decomposes words groups command ∧
        (∀ others rest, Decomposes words others rest → others = groups ∧ rest = command) ∧
        let line := program :: words
        let split := Split.ofArguments line
        split.configArguments = program :: groups.flatMap FlagGroup.words ∧
          split.commandArguments line = program :: command ∧
          split.commandStart = split.configArguments.length ∧
          (Split.ofArguments (program :: command)).configArguments = [program] ∧
          (Split.ofArguments (program :: command)).commandArguments (program :: command) =
            program :: command ∧
          (Split.ofArguments split.configArguments).configArguments = split.configArguments ∧
          (Split.ofArguments split.configArguments).commandArguments split.configArguments =
            [program] ∧
          ∀ first others further, command = first :: others →
            (Split.ofArguments (split.configArguments ++ first :: further)).configArguments =
              split.configArguments) ∧
      Split.ofArguments [] = ⟨[], 0⟩ ∧ (Split.ofArguments []).commandArguments [] = [] ∧
      ∀ word, flagShape word = .ofText word.lossy := by
  refine ⟨fun program words => ?_, rfl, rfl, flagShape_eq_ofText⟩
  obtain ⟨groups, command, parse⟩ := exists_decomposes words
  refine ⟨groups, command, parse, fun others rest again => parse.unique again, ?_⟩
  intro line split
  have found : split = ⟨program :: groups.flatMap FlagGroup.words,
      (groups.flatMap FlagGroup.words).length + 1⟩ := parse.ofArguments_eq program
  rw [found]
  refine ⟨rfl, found ▸ parse.commandArguments_eq program, rfl, ?_,
    parse.of_command.commandArguments_eq program, ?_,
    parse.of_groups.commandArguments_eq program, ?_⟩
  · rw [parse.of_command.ofArguments_eq]
    rfl
  · rw [parse.of_groups.ofArguments_eq]
  · rintro first others further rfl
    have swapped := (parse.of_first further).ofArguments_eq program
    exact congrArg Split.configArguments swapped

/-- A value may look like a flag, and bytes that are not UTF-8 may be a value. -/
example :
    let words := [RawText.ofString "--bus", .ofString "--log-filter", ⟨[0x2D, 0x2D, 0xFF]⟩]
    splitWords words = (words.take 2, words.drop 2) := by
  decide +kernel

end CommandLine

end BusBridge
