import BusBridge.CommandLine.Layout
import BusBridge.Proofs.WrittenRequests

/-!
# Reading options among plain words

What a plain word adds to what was read of a call so far, and what an option with its value
adds, wherever they stand; and so what a whole row of them adds.
-/

namespace BusBridge

namespace CommandLine

section Tokens

variable {text : String}

theorem exists_utf8EncodeChar (character : Char) :
    ∃ lead more, String.utf8EncodeChar character = lead :: more ∧
      (lead = Token.dash → character = '-') := by
  have code : character.val.toNat = character.toNat := rfl
  have value {number : Nat} (byte : UInt8.ofNat number = Token.dash) : number % 256 = 0x2D := by
    simpa [Token.dash] using congrArg UInt8.toNat byte
  simp only [String.utf8EncodeChar, code]
  split
  · refine ⟨_, _, rfl, fun starts => Char.toNat_inj.mp ?_⟩
    have same := value starts
    simp
    omega
  · -- The first byte of a character beyond ASCII is above all of ASCII.
    have above {number : Nat} (large : 0xC0 ≤ number % 256)
        (starts : UInt8.ofNat number = Token.dash) : character = '-' := by
      have same := value starts
      omega
    split
    · exact ⟨_, _, rfl, above (by omega)⟩
    · split
      · exact ⟨_, _, rfl, above (by omega)⟩
      · exact ⟨_, _, rfl, above (by omega)⟩

theorem exists_bytes {first : Char} {rest : List Char} (characters : text.toList = first :: rest) :
    ∃ lead more, (RawText.ofString text).bytes = lead :: more ∧
      (lead = Token.dash → first = '-') := by
  obtain ⟨lead, more, encoded, isDash⟩ := exists_utf8EncodeChar first
  rw [RawText.bytes_eq_flatMap, characters, List.flatMap_cons, encoded]
  exact ⟨lead, _, rfl, isDash⟩

theorem ofWord_plain (plain : ¬Dashed text) : Token.ofWord (.ofString text) = .plain := by
  cases characters : text.toList with
  | nil =>
      obtain rfl := String.toList_eq_nil_iff.mp characters
      rfl
  | cons first rest =>
      obtain ⟨lead, more, bytes, isDash⟩ := exists_bytes characters
      have other : lead ≠ Token.dash := by
        intro same
        exact plain (by rw [Dashed, characters, isDash same, List.head?_cons])
      rw [Token.ofWord, bytes]
      cases more with
      | nil => rfl
      | cons second more => exact if_neg other

theorem ofWord_long {name : String} (noEquals : 0x3D ∉ (RawText.ofString name).bytes)
    (named : (RawText.ofString name).bytes ≠ []) :
    Token.ofWord (.ofString ("--" ++ name)) = .long (.ofString name) none := by
  have dashes : (RawText.ofString "--").bytes = [Token.dash, Token.dash] := by decide +kernel
  rw [Token.ofWord, RawText.bytes_append, dashes]
  simp [named, RawText.splitAtEquals_of_not_mem noEquals]

theorem isNumberTail_append {point letter : Bool} {digits : List Char}
    (isDigit : AllDigits digits) (rest : List Char) :
    Token.isNumberTail point letter (digits ++ rest) = Token.isNumberTail point letter rest := by
  induction digits with
  | nil => rfl
  | cons digit digits ih =>
      obtain ⟨here, later⟩ := List.forall_mem_cons.mp isDigit
      rw [List.cons_append, Token.isNumberTail, if_pos here, ih later]

variable {fraction exponent : List Char}

theorem isNumberTail_exponent (exponential : IsExponent exponent) (point : Bool) :
    Token.isNumberTail point true exponent = true := by
  obtain rfl | ⟨digits, rfl, some, isDigit⟩ := exponential
  · rfl
  · have whole : Token.isNumberTail false false (digits ++ []) = true :=
      isNumberTail_append isDigit []
    rw [List.append_nil] at whole
    simp [Token.isNumberTail, some, whole]

theorem isNumberTail_fraction (fractional : IsFraction fraction)
    (exponential : IsExponent exponent) :
    Token.isNumberTail true true (fraction ++ exponent) = true := by
  obtain rfl | ⟨digits, rfl, isDigit⟩ := fractional
  · exact isNumberTail_exponent exponential true
  · have whole : Token.isNumberTail false true (digits ++ exponent) = true := by
      rw [isNumberTail_append isDigit, isNumberTail_exponent exponential]
    simp [Token.isNumberTail, whole]

theorem ofWord_negative (negative : IsNegativeNumber text) :
    ∃ cluster, Token.ofWord (.ofString text) = .short cluster ∧
      Token.isNumber cluster = true := by
  obtain ⟨whole, fraction, exponent, characters, filled, isDigit, fractional, exponential⟩ :=
    negative
  obtain ⟨first, others, rfl⟩ := List.exists_cons_of_ne_nil filled
  obtain ⟨digit, digits⟩ := List.forall_mem_cons.mp isDigit
  let number := String.ofList (first :: (others ++ (fraction ++ exponent)))
  have sign : (RawText.ofString "-").bytes = [Token.dash] := by decide +kernel
  have bytes : (RawText.ofString text).bytes = Token.dash :: (RawText.ofString number).bytes := by
    have parts : text = "-" ++ number := by
      apply String.toList_injective
      simp [number, characters]
    rw [parts, RawText.bytes_append, sign]
    rfl
  obtain ⟨second, more, rest, isDash⟩ := exists_bytes (String.toList_ofList : number.toList = _)
  have noDash : second ≠ Token.dash := by
    intro same
    rw [isDash same] at digit
    cases digit
  refine ⟨(RawText.ofString number).bytes, ?_, ?_⟩
  · rw [Token.ofWord, bytes, rest]
    simp [noDash]
  · have decoded : (RawText.mk (RawText.ofString number).bytes).decode? = some number :=
      RawText.decode?_ofString number
    rw [Token.isNumber, decoded]
    simp [number, digit, isNumberTail_append digits,
      isNumberTail_fraction fractional exponential]

end Tokens

/-- What was taken in so far: options with their values, and plain words. -/
def settled (given : List (OptionSpec × String)) (texts : List String) : Progress :=
  ⟨given.map taken, texts.map .ofString, .nothing, false⟩

/-- These options and plain words were read, though not all of them are taken in yet. -/
structure Progress.Reads (progress : Progress) (given : List (OptionSpec × String))
    (texts : List String) : Prop where
  going : progress.terminated = false
  settles : progress.resolve = .ok (settled given texts)
  count : progress.wordCount = texts.length

theorem Progress.resolve_words (options : List (OptionName × RawText)) (before : List RawText)
    (place : PlaceSpec) (words : List RawText) (terminated : Bool) :
    Progress.resolve ⟨options, before, .words place words, terminated⟩ =
      if words.all fun word => word.decode?.isSome then
        .ok ⟨options, before ++ words, .nothing, terminated⟩
      else .error .invalidUtf8 :=
  rfl

namespace Progress.Reads

variable {level : Level} {progress : Progress} {given : List (OptionSpec × String)}
  {texts : List String}

theorem start : Progress.start.Reads [] [] :=
  ⟨rfl, rfl, rfl⟩

theorem ofSettled (given : List (OptionSpec × String)) (texts : List String) :
    (settled given texts).Reads given texts :=
  ⟨rfl, rfl, List.length_map _⟩

theorem awaitsValue_eq (reads : progress.Reads given texts) : progress.awaitsValue = false := by
  have settles := reads.settles
  rw [awaitsValue]
  split
  next waiting =>
    rw [resolve, waiting] at settles
    cases settles
  next => rfl

/-- A further word for a place that has some already is read with them. -/
theorem further {place : PlaceSpec} {words : List RawText} (reads : progress.Reads given texts)
    (waiting : progress.pending = .words place words) (text : String) :
    Progress.Reads { progress with pending := .words place (words ++ [.ofString text]) } given
      (texts ++ [text]) := by
  obtain ⟨options, before, pending, terminated⟩ := progress
  obtain rfl : pending = .words place words := waiting
  obtain ⟨going, settles, count⟩ := reads
  rw [resolve_words] at settles
  split at settles
  next readable =>
    obtain ⟨taken, words_eq, -, -⟩ := Progress.mk.inj (Except.ok.inj settles)
    refine ⟨going, ?_, ?_⟩
    · have all : (words ++ [RawText.ofString text]).all fun word => word.decode?.isSome := by
        simpa using readable
      have ended : terminated = false := going
      rw [resolve_words, if_pos all, taken, ← List.append_assoc, words_eq, ended]
      simp [settled]
    · rw [List.length_append, ← count]
      simp [wordCount, Nat.add_assoc]
  next => cases settles

/-- A plain word goes to the place that is next. -/
theorem readPlain {place : PlaceSpec} (reads : progress.Reads given texts)
    (here : level.place? texts.length = some place) (text : String) :
    ∃ next, level.readPlain progress (.ofString text) = .ok next ∧
      next.Reads given (texts ++ [text]) := by
  let begun : Progress :=
    { settled given texts with pending := .words place [.ofString text] }
  have begins : begun.Reads given (texts ++ [text]) :=
    ⟨rfl, by simp [begun, resolve, settled], by simp [begun, wordCount, settled]⟩
  have noValue := reads.awaitsValue_eq
  rw [Level.readPlain, reads.count, here, reads.settles]
  cases waiting : progress.pending with
  | awaiting option =>
      rw [awaitsValue, waiting] at noValue
      cases noValue
  | nothing => exact ⟨begun, rfl, begins⟩
  | value option value => exact ⟨begun, rfl, begins⟩
  | words current words =>
      dsimp only
      split
      next same =>
        obtain ⟨rfl, -⟩ := same
        exact ⟨_, rfl, reads.further waiting text⟩
      next => exact ⟨begun, rfl, begins⟩

theorem place_method (count : Nat) :
    ∃ place, methodLevel.place? count = some place ∧
      (0 < count → place.negativeNumbers = true) := by
  match count with
  | 0 => exact ⟨_, rfl, nofun⟩
  | 1 => exact ⟨_, rfl, fun _ => rfl⟩
  | count + 2 => exact ⟨_, rfl, fun _ => rfl⟩

/-- A word that is no option goes to the next place of a call, and so does a negative number
that stands after the name. -/
theorem plain {text : String} (reads : progress.Reads given texts)
    (fits : ¬Dashed text ∨ texts ≠ [] ∧ IsNegativeNumber text) :
    ∃ next, methodLevel.step progress (.ofString text) = .ok next ∧
      next.Reads given (texts ++ [text]) := by
  obtain ⟨place, here, numbers⟩ := place_method texts.length
  obtain ⟨next, read, reached⟩ := reads.readPlain here text
  refine ⟨next, ?_, reached⟩
  rw [Level.step, reads.going, if_neg Bool.false_ne_true]
  obtain plain | ⟨named, negative⟩ := fits
  · rw [ofWord_plain plain]
    exact read
  · obtain ⟨cluster, token, number⟩ := ofWord_negative negative
    have allowed : methodLevel.allowsNegativeNumber progress = true := by
      rw [Level.allowsNegativeNumber, reads.count, here]
      exact numbers (List.length_pos_iff.mpr named)
    rw [token]
    simp [number, allowed, read]

section Options

variable {option : OptionSpec} {value : String}

theorem fresh_of_givable (givable : Givable level (given ++ [(option, value)])) :
    ∀ earlier ∈ (settled given texts).options, earlier.1 = option.name →
      option.repeatable = true := by
  intro earlier member same
  obtain ⟨entry, inside, rfl⟩ := List.mem_map.mp member
  exact (List.pairwise_append.mp givable.once).2.2 entry inside _ List.mem_cons_self same

theorem accept (givable : Givable level (given ++ [(option, value)])) :
    (settled given texts).accept option (.ofString value) =
      .ok (settled (given ++ [(option, value)]) texts) := by
  have legal := givable.legal (option, value) (by simp)
  rw [accept_eq_ok legal (fresh_of_givable givable)]
  simp [settled, taken]

theorem joined (legible : level.Legible) (reads : progress.Reads given texts)
    (givable : Givable level (given ++ [(option, value)])) :
    level.step progress (.ofString (option.assign value)) =
      .ok (settled (given ++ [(option, value)]) texts) := by
  have listed := givable.listed (option, value) (by simp)
  rw [step_assign legible listed reads.going, Level.meet, reads.settles]
  simp only [Level.orUsage, accept givable]

theorem awaiting (legible : level.Legible) (reads : progress.Reads given texts)
    (listed : option ∈ level.options) (named : (RawText.ofString option.long).bytes ≠ []) :
    level.step progress (.ofString ("--" ++ option.long)) =
      .ok { settled given texts with pending := .awaiting option } := by
  rw [Level.step, reads.going, ofWord_long (legible.plain option listed) named]
  simp [Level.readLong, legible.found option listed, Level.meet, reads.settles, Level.orUsage]

theorem awaited (plain : ¬Dashed value) :
    level.step { settled given texts with pending := .awaiting option }
        (.ofString value) =
      .ok { settled given texts with pending := .value option (.ofString value) } := by
  rw [Level.step, ofWord_plain plain]
  rfl

theorem ofValue (givable : Givable level (given ++ [(option, value)])) :
    Progress.Reads
      { settled given texts with pending := .value option (.ofString value) }
      (given ++ [(option, value)]) texts where
  going := rfl
  settles := accept givable
  count := List.length_map _

end Options

end Progress.Reads

theorem CallOption.long_ne_nil (option : CallOption) :
    (RawText.ofString option.spec.long).bytes ≠ [] := by
  cases option <;> decide +kernel

/-- Words that can be the plain words of a call without the two dashes before them. -/
def Orderly : List String → Prop
  | [] => True
  | name :: arguments =>
    ¬Dashed name ∧ ∀ argument ∈ arguments, ¬Dashed argument ∨ IsNegativeNumber argument

theorem Orderly.next {texts rest : List String} {text : String}
    (orderly : Orderly (texts ++ text :: rest)) :
    ¬Dashed text ∨ texts ≠ [] ∧ IsNegativeNumber text := by
  cases texts with
  | nil => exact .inl orderly.1
  | cons name arguments =>
      exact (orderly.2 text (by simp)).imp id fun negative => ⟨nofun, negative⟩

theorem Givable.of_append {level : Level} {given further : List (OptionSpec × String)}
    (givable : Givable level (given ++ further)) : Givable level given where
  listed := fun entry member => givable.listed entry (List.mem_append_left _ member)
  legal := fun entry member => givable.legal entry (List.mem_append_left _ member)
  once := (List.pairwise_append.mp givable.once).1

section Rows

variable {level : Level} {progress : Progress} {given : List (OptionSpec × String)}
  {texts : List String}

namespace Progress.Reads

/-- An option with its value is taken in, in one word or in two. -/
theorem group {group : OptionGroup} (legible : level.Legible) (reads : progress.Reads given texts)
    (givable : Givable level (given ++ [group.entry]))
    (apart : group.joined = false → ¬Dashed group.value) :
    ∃ next, (group.words.map .ofString).foldlM level.step progress = .ok next ∧
      next.Reads (given ++ [group.entry]) texts := by
  cases joined : group.joined with
  | true =>
      refine ⟨_, ?_, .ofSettled _ _⟩
      rw [OptionGroup.words, joined, if_pos rfl, List.map_singleton, List.foldlM_cons,
        reads.joined legible givable]
      rfl
  | false =>
      have listed : group.option.spec ∈ level.options := givable.listed group.entry (by simp)
      have begun := reads.awaiting legible listed group.option.long_ne_nil
      have ended : level.step _ (.ofString group.value) = _ :=
        @awaited level given texts group.option.spec group.value (apart joined)
      refine ⟨_, ?_, .ofValue givable⟩
      rw [OptionGroup.words, joined, if_neg Bool.false_ne_true, List.map_cons, List.foldlM_cons,
        begun, List.map_singleton]
      simp only [bind, Except.bind, List.foldlM_cons, ended]
      rfl

/-- A row of options and plain words is read, in whatever order they stand. -/
theorem items {items : List LayoutItem} (reads : progress.Reads given texts)
    (givable : Givable methodLevel
      (given ++ (items.filterMap LayoutItem.group?).map OptionGroup.entry))
    (apart : ∀ group ∈ items.filterMap LayoutItem.group?,
      group.joined = false → ¬Dashed group.value)
    (orderly : Orderly (texts ++ items.filterMap LayoutItem.plain?)) :
    ∃ next, ((items.flatMap LayoutItem.words).map .ofString).foldlM methodLevel.step progress =
        .ok next ∧
      next.Reads (given ++ (items.filterMap LayoutItem.group?).map OptionGroup.entry)
        (texts ++ items.filterMap LayoutItem.plain?) := by
  induction items generalizing progress given texts with
  | nil => exact ⟨progress, rfl, by simpa using reads⟩
  | cons item rest ih =>
      cases item with
      | plain text =>
          simp only [List.filterMap_cons, LayoutItem.plain?_plain, LayoutItem.group?_plain]
            at givable apart orderly ⊢
          obtain ⟨middle, stepped, reached⟩ := reads.plain orderly.next
          obtain ⟨next, read, whole⟩ := ih reached givable apart (by simpa using orderly)
          refine ⟨next, ?_, by simpa using whole⟩
          rw [List.flatMap_cons, List.map_append, List.foldlM_append]
          simp only [LayoutItem.words, List.map_singleton, List.foldlM_cons, stepped]
          exact read
      | option group =>
          simp only [List.filterMap_cons, LayoutItem.plain?_option, LayoutItem.group?_option,
            List.map_cons] at givable apart orderly ⊢
          rw [List.append_cons] at givable ⊢
          have legible : methodLevel.Legible := legible_level .method
          obtain ⟨here, later⟩ := List.forall_mem_cons.mp apart
          obtain ⟨middle, stepped, reached⟩ := reads.group legible givable.of_append here
          obtain ⟨next, read, whole⟩ := ih reached givable later orderly
          refine ⟨next, ?_, whole⟩
          rw [List.flatMap_cons, List.map_append, List.foldlM_append, LayoutItem.words, stepped]
          exact read

end Progress.Reads

/-- After a row with at least one plain word nothing is missing of a call. -/
theorem Progress.Reads.finish (reads : progress.Reads given texts) (named : texts ≠ []) :
    methodLevel.finish progress = .ok (settled given texts) := by
  have filled : methodLevel.missing (settled given texts) = [] := by
    obtain ⟨name, arguments, rfl⟩ := List.exists_cons_of_ne_nil named
    cases arguments with
    | nil => rfl
    | cons argument rest => simp [Level.missing, methodLevel, settled]
  rw [Level.finish, reads.settles]
  simp only [filled]

end Rows

section Headings

variable {progress next : Progress} {given : List (OptionSpec × String)} {word : RawText}
  {rest : List RawText}

theorem readHeading_step (noCommand : Token.ofWord word ≠ .plain ∨ progress.awaitsValue = true)
    (going : progress.terminated = false) (stepped : programLevel.step progress word = .ok next) :
    readHeading progress (word :: rest) = readHeading next rest := by
  have option : ((progress.terminated || decide (Token.ofWord word = .plain)) &&
      (progress.terminated || !progress.awaitsValue)) = false := by
    rcases noCommand with token | awaits
    · simp [going, token]
    · simp [going, awaits]
  rw [readHeading]
  simp only [option, Bool.false_eq_true, if_false, stepped]

theorem legible_program : programLevel.Legible where
  plain := by decide +kernel
  found := by decide

theorem readHeading_group {group : OptionGroup} (reads : progress.Reads given [])
    (givable : Givable programLevel (given ++ [group.entry]))
    (apart : group.joined = false → ¬Dashed group.value) :
    ∃ next, readHeading progress (group.words.map .ofString ++ rest) = readHeading next rest ∧
      next.Reads (given ++ [group.entry]) [] := by
  cases joined : group.joined with
  | true =>
      have listed : group.option.spec ∈ programLevel.options :=
        givable.listed group.entry (by simp)
      have long : Token.ofWord (.ofString (group.option.spec.assign group.value)) ≠ .plain := by
        rw [Token.ofWord, bytes_assign]
        simp [RawText.splitAtEquals_append (legible_program.plain _ listed)]
      refine ⟨_, ?_, .ofSettled _ _⟩
      rw [OptionGroup.words, joined, if_pos rfl, List.map_singleton, List.singleton_append,
        readHeading_step (.inl long) reads.going (reads.joined legible_program givable)]
      rfl
  | false =>
      have listed : group.option.spec ∈ programLevel.options :=
        givable.listed group.entry (by simp)
      have named := group.option.long_ne_nil
      have long : Token.ofWord (.ofString ("--" ++ group.option.spec.long)) ≠ .plain := by
        rw [ofWord_long (legible_program.plain _ listed) named]
        intro same
        cases same
      have ended : programLevel.step _ (.ofString group.value) = _ :=
        @Progress.Reads.awaited programLevel given [] group.option.spec group.value (apart joined)
      refine ⟨_, ?_, .ofValue givable⟩
      rw [OptionGroup.words, joined, if_neg Bool.false_ne_true, List.map_cons, List.map_singleton,
        List.cons_append, List.singleton_append,
        readHeading_step (.inl long) reads.going (reads.awaiting legible_program listed named),
        readHeading_step (.inr rfl) rfl ended]

theorem readHeading_front {front : List OptionGroup} (reads : progress.Reads given [])
    (givable : Givable programLevel (given ++ front.map OptionGroup.entry))
    (apart : ∀ group ∈ front, group.joined = false → ¬Dashed group.value) :
    ∃ next,
      readHeading progress ((front.flatMap OptionGroup.words).map .ofString ++ rest) =
          readHeading next rest ∧
        next.Reads (given ++ front.map OptionGroup.entry) [] := by
  induction front generalizing progress given with
  | nil => exact ⟨progress, rfl, by simpa using reads⟩
  | cons group front ih =>
      obtain ⟨here, later⟩ := List.forall_mem_cons.mp apart
      rw [List.map_cons, List.append_cons] at givable ⊢
      obtain ⟨middle, first, reached⟩ := readHeading_group reads givable.of_append here
      obtain ⟨next, others, whole⟩ := ih reached givable later
      refine ⟨next, ?_, whole⟩
      rw [List.flatMap_cons, List.map_append, List.append_assoc, first, others]

theorem readHeading_command (reads : progress.Reads given []) (name : CommandName) :
    readHeading progress (.ofString name.word :: rest) = .ok (.command progress name rest) := by
  rw [readHeading, name.ofWord_word, name.ofWord?_word, reads.going, reads.awaitsValue_eq]
  rfl

end Headings

end CommandLine

end BusBridge
