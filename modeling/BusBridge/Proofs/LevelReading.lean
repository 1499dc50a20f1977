import BusBridge.CommandLine.Writing
import BusBridge.Proofs.IntegerReading

/-!
# Reading a level word by word

What one word adds to what was read so far, and what a row of words adds: options with their
values in one word, and the plain words after the two dashes.
-/

namespace BusBridge

namespace CommandLine

namespace ValueRule

theorem check_text (usage text : String) :
    ValueRule.text.check usage (.ofString text) = .ok () := by
  simp [check]

theorem check_seconds {seconds : Nat} (usage : String) (below : seconds < Nat.pow 2 64) :
    ValueRule.seconds.check usage (.ofString (toString seconds)) = .ok () := by
  have contained := IntegerType.contains_uint64 below
  have read := IntegerType.read_toString ⟨seconds, contained⟩ seconds rfl
  rw [check, RawText.decode?_ofString]
  dsimp only
  rw [read]

end ValueRule

section Options

variable {option : OptionSpec}

/-- The names of the options can be told from their values, and from each other. -/
structure Level.Legible (level : Level) : Prop where
  plain : ∀ option ∈ level.options, 0x3D ∉ (RawText.ofString option.long).bytes
  found : ∀ option ∈ level.options, level.longOption? option.long = some option

theorem legible_level (name : CommandName) : name.level.Legible where
  plain := by
    cases name <;> decide +kernel
  found := by
    cases name <;> decide

theorem bytes_assign (value : String) :
    (RawText.ofString (option.assign value)).bytes = Token.dash :: Token.dash ::
      ((RawText.ofString option.long).bytes ++ 0x3D :: (RawText.ofString value).bytes) := by
  have dashes : (RawText.ofString "--").bytes = [Token.dash, Token.dash] := by decide +kernel
  have equals : (RawText.ofString "=").bytes = [0x3D] := by decide +kernel
  simp [OptionSpec.assign, RawText.bytes_append, dashes, equals]

/-- An option in one word with its value is met as it is, whatever the value looks like. -/
theorem step_joined {level : Level} {progress : Progress} (legible : level.Legible)
    (listed : option ∈ level.options) (going : progress.terminated = false)
    (value : List UInt8) :
    level.step progress ⟨Token.dash :: Token.dash ::
        ((RawText.ofString option.long).bytes ++ 0x3D :: value)⟩ =
      Level.meet progress option (some ⟨value⟩) := by
  have token : Token.ofWord ⟨Token.dash :: Token.dash ::
      ((RawText.ofString option.long).bytes ++ 0x3D :: value)⟩ =
        .long (.ofString option.long) (some ⟨value⟩) := by
    rw [Token.ofWord]
    simp [RawText.splitAtEquals_append (legible.plain option listed)]
  rw [Level.step, going, token]
  simp [Level.readLong, legible.found option listed]

theorem step_assign {level : Level} {progress : Progress} (legible : level.Legible)
    (listed : option ∈ level.options) (going : progress.terminated = false) (value : String) :
    level.step progress (.ofString (option.assign value)) =
      Level.meet progress option (some (.ofString value)) := by
  have word : RawText.ofString (option.assign value) = ⟨Token.dash :: Token.dash ::
      ((RawText.ofString option.long).bytes ++ 0x3D :: (RawText.ofString value).bytes)⟩ :=
    congrArg RawText.mk (bytes_assign value)
  rw [word]
  exact step_joined legible listed going (RawText.ofString value).bytes

/-- These options can be given with these values, one after another. -/
structure Givable (level : Level) (given : List (OptionSpec × String)) : Prop where
  listed : ∀ entry ∈ given, entry.1 ∈ level.options
  legal : ∀ entry ∈ given, entry.1.rule.check entry.1.usage (.ofString entry.2) = .ok ()
  once : given.Pairwise fun first second =>
    first.1.name = second.1.name → second.1.repeatable = true

theorem Givable.nil (level : Level) : Givable level [] :=
  ⟨List.forall_mem_nil _, List.forall_mem_nil _, .nil⟩

theorem Givable.cons {level : Level} {value : String} {rest : List (OptionSpec × String)}
    (listed : option ∈ level.options)
    (legal : option.rule.check option.usage (.ofString value) = .ok ())
    (others : ∀ later ∈ rest, option.name = later.1.name → later.1.repeatable = true)
    (further : Givable level rest) : Givable level ((option, value) :: rest) where
  listed := List.forall_mem_cons.mpr ⟨listed, further.listed⟩
  legal := List.forall_mem_cons.mpr ⟨legal, further.legal⟩
  once := List.pairwise_cons.mpr ⟨others, further.once⟩

/-- An option with its value as it is taken in. -/
def taken (entry : OptionSpec × String) : OptionName × RawText :=
  (entry.1.name, .ofString entry.2)

theorem accept_eq_ok {progress : Progress} {value : RawText}
    (legal : option.rule.check option.usage value = .ok ())
    (fresh : ∀ earlier ∈ progress.options, earlier.1 = option.name → option.repeatable = true) :
    progress.accept option value = .ok { progress with
      options := progress.options ++ [(option.name, value)], pending := .nothing } := by
  have allowed : (!option.repeatable && progress.options.any fun earlier =>
      earlier.1 = option.name) = false := by
    cases repeats : option.repeatable with
    | true => rfl
    | false =>
        rw [Bool.not_false, Bool.true_and, List.any_eq_false]
        intro earlier member same
        have wrong := fresh earlier member (of_decide_eq_true same)
        rw [repeats] at wrong
        cases wrong
  rw [Progress.accept, allowed, legal]
  rfl

theorem foldlM_assign {level : Level} {given : List (OptionSpec × String)}
    {progress : Progress} (legible : level.Legible) (givable : Givable level given)
    (fresh : ∀ earlier ∈ progress.options, ∀ entry ∈ given,
      earlier.1 = entry.1.name → entry.1.repeatable = true)
    (going : progress.terminated = false) (settled : progress.pending = .nothing) :
    (given.map fun entry => RawText.ofString (entry.1.assign entry.2)).foldlM
        level.step progress =
      .ok { progress with options := progress.options ++ given.map taken } := by
  induction given generalizing progress with
  | nil => simp [pure, Except.pure]
  | cons entry rest ih =>
      obtain ⟨listed, legal, once⟩ := givable
      obtain ⟨listed, others⟩ := List.forall_mem_cons.mp listed
      obtain ⟨allowed, further⟩ := List.forall_mem_cons.mp legal
      obtain ⟨distinct, once⟩ := List.pairwise_cons.mp once
      have accepted := accept_eq_ok allowed fun earlier member =>
        fresh earlier member entry List.mem_cons_self
      let next : Progress := { progress with options := progress.options ++ [taken entry] }
      have stepped : level.step progress (.ofString (entry.1.assign entry.2)) = .ok next := by
        rw [step_assign legible listed going, Level.meet, Progress.resolve, settled]
        simp only [Level.orUsage, accepted, next, taken, settled]
      have freshNext : ∀ earlier ∈ next.options, ∀ entry ∈ rest,
          earlier.1 = entry.1.name → entry.1.repeatable = true := by
        intro earlier member other known
        rcases List.mem_append.mp member with member | member
        · exact fresh earlier member other (List.mem_cons_of_mem _ known)
        · obtain rfl := List.mem_singleton.mp member
          exact distinct other known
      have later := @ih next ⟨others, further, once⟩ freshNext going settled
      rw [List.map_cons, List.foldlM_cons, stepped]
      simpa [bind, Except.bind, next] using later

theorem legal_of_accept {progress next : Progress} {value : RawText}
    (accepted : progress.accept option value = .ok next) :
    option.rule.check option.usage value = .ok () ∧ next = { progress with
      options := progress.options ++ [(option.name, value)], pending := .nothing } := by
  unfold Progress.accept at accepted
  split at accepted
  · cases accepted
  split at accepted
  · cases accepted
  next legal => exact ⟨legal, (Except.ok.inj accepted).symm⟩

/-- Where a row of options with their values can be read, each value is one that its option
takes. -/
theorem legal_of_foldlM_assign {level : Level} {given : List (OptionSpec × String)}
    {progress next : Progress} (legible : level.Legible)
    (listed : ∀ entry ∈ given, entry.1 ∈ level.options) (going : progress.terminated = false)
    (settled : progress.pending = .nothing)
    (read : (given.map fun entry => RawText.ofString (entry.1.assign entry.2)).foldlM
        level.step progress = .ok next) :
    ∀ entry ∈ given, entry.1.rule.check entry.1.usage (.ofString entry.2) = .ok () := by
  induction given generalizing progress with
  | nil => exact List.forall_mem_nil _
  | cons entry rest ih =>
      obtain ⟨listed, others⟩ := List.forall_mem_cons.mp listed
      have met : Level.meet progress entry.1 (some (.ofString entry.2)) =
          Level.orUsage (progress.accept entry.1 (.ofString entry.2)) := by
        rw [Level.meet, Progress.resolve, settled]
        rfl
      rw [List.map_cons, List.foldlM_cons, step_assign legible listed going, met] at read
      cases accepted : progress.accept entry.1 (.ofString entry.2) with
      | error error =>
          rw [accepted] at read
          cases read
      | ok middle =>
          rw [accepted] at read
          obtain ⟨legal, same⟩ := legal_of_accept accepted
          have goesOn : middle.terminated = false := by rw [same, going]
          have settledNext : middle.pending = .nothing := by rw [same]
          exact List.forall_mem_cons.mpr ⟨legal, ih others goesOn settledNext read⟩

end Options

section PlainWords

variable {level : Level} {place : PlaceSpec} {progress : Progress} {words before : List RawText}

theorem step_of_terminated (ended : progress.terminated = true) (word : RawText) :
    level.step progress word = level.readPlain progress word := by
  rw [Level.step, ended, if_pos rfl]

theorem readPlain_first (settled : progress.pending = .nothing)
    (here : level.place? progress.words.length = some place) (word : RawText) :
    level.readPlain progress word = .ok { progress with pending := .words place [word] } := by
  have count : progress.wordCount = progress.words.length := by
    rw [Progress.wordCount, settled]
  rw [Level.readPlain, settled]
  simp [count, here, Progress.resolve, settled, Level.orUsage]

/-- The last place takes all the words that are left. -/
theorem foldlM_lastPlace (last : level.places.getLast? = some place)
    (many : place.multiple = true) (ended : progress.terminated = true)
    (waiting : progress.pending = .words place before)
    (reached : level.places.length ≤ progress.words.length + before.length) :
    words.foldlM level.step progress =
      .ok { progress with pending := .words place (before ++ words) } := by
  induction words generalizing progress before with
  | nil => simp [pure, Except.pure, ← waiting]
  | cons word rest ih =>
      have here : level.place? progress.wordCount = some place := by
        have beyond : level.places[progress.wordCount]? = none := by
          rw [List.getElem?_eq_none_iff, Progress.wordCount, waiting]
          exact reached
        rw [Level.place?, beyond, last]
        simp [many]
      let next : Progress := { progress with pending := .words place (before ++ [word]) }
      have stepped : level.step progress word = .ok next := by
        rw [step_of_terminated ended, Level.readPlain, waiting]
        simp [here, many, next]
      have reachedNext : level.places.length ≤
          progress.words.length + (before ++ [word]).length := by
        rw [List.length_append]
        omega
      have later := @ih next (before ++ [word]) ended rfl reachedNext
      rw [List.foldlM_cons, stepped]
      simpa [bind, Except.bind, next] using later

end PlainWords

namespace Level

/-- Go on reading the words of a level. -/
def readFrom (level : Level) (progress : Progress) (words : List RawText) :
    Except Interruption Progress :=
  match words.foldlM level.step progress with
  | .error stop => .error stop
  | .ok progress => orUsage (level.finish progress)

theorem read_eq_readFrom (level : Level) (words : List RawText) :
    level.read words = level.readFrom .start words :=
  rfl

section Reading

variable {level : Level} {progress next : Progress} {words further : List RawText}

theorem readFrom_append (reached : words.foldlM level.step progress = .ok next) :
    level.readFrom progress (words ++ further) = level.readFrom next further := by
  rw [readFrom, List.foldlM_append, reached]
  rfl

theorem readFrom_cons {word : RawText} (stepped : level.step progress word = .ok next) :
    level.readFrom progress (word :: words) = level.readFrom next words := by
  rw [readFrom, List.foldlM_cons, stepped]
  rfl

theorem missing_of_full (full : level.places.length ≤ progress.words.length) :
    level.missing progress = [] := by
  rw [missing, List.drop_eq_nil_of_le full]
  rfl

/-- At the end the words that are pending are taken in. -/
theorem readFrom_nil {place : PlaceSpec} {texts : List String}
    (waiting : progress.pending = .words place (texts.map .ofString))
    (filled : level.missing { progress with
      words := progress.words ++ texts.map .ofString, pending := .nothing } = []) :
    level.readFrom progress [] = .ok { progress with
      words := progress.words ++ texts.map .ofString, pending := .nothing } := by
  change orUsage (level.finish progress) = _
  rw [finish, Progress.resolve, waiting]
  simp [filled, orUsage]

/-- The last place takes all texts that are left. -/
theorem readFrom_lastPlace {place : PlaceSpec} {before texts : List String}
    (last : level.places.getLast? = some place) (many : place.multiple = true)
    (ended : progress.terminated = true)
    (waiting : progress.pending = .words place (before.map .ofString))
    (reached : level.places.length ≤ progress.words.length + before.length) :
    level.readFrom progress (texts.map .ofString) = .ok { progress with
      words := progress.words ++ (before ++ texts).map .ofString, pending := .nothing } := by
  let all : Progress := { progress with pending := .words place ((before ++ texts).map .ofString) }
  have taken : (texts.map RawText.ofString).foldlM level.step progress = .ok all := by
    rw [foldlM_lastPlace last many ended waiting (by simpa using reached)]
    simp [all]
  have full : level.places.length ≤
      (progress.words ++ (before ++ texts).map RawText.ofString).length := by
    simp only [List.length_append, List.length_map]
    omega
  calc level.readFrom progress (texts.map .ofString)
      = level.readFrom progress (texts.map .ofString ++ []) := by rw [List.append_nil]
    _ = level.readFrom all [] := readFrom_append taken
    _ = _ := @readFrom_nil level all place (before ++ texts) rfl (missing_of_full full)

end Reading

end Level

end CommandLine

end BusBridge
