import BusBridge.Proofs.SingleSettings
import Mathlib.Data.List.TakeWhile

/-!
# The log filter from every source

A flag and a file give the log filter as it is written.  The text of a variable loses the blanks
around it, and may be taken for something else: a list, a table, a truth value, a number, or
what stands between quotes.
-/

namespace BusBridge

section Lengths

variable {input after characters : List Char} {character : Char}

theorem Toml.length_readHex {count value code : Nat}
    (read : Toml.readHex count value input = some (code, after)) :
    after.length ≤ input.length := by
  induction count generalizing value input with
  | zero =>
      cases read
      exact Nat.le_refl _
  | succ count ih =>
      cases input with
      | nil => cases read
      | cons digit rest =>
          obtain ⟨number, -, later⟩ := Option.bind_eq_some_iff.mp read
          exact Nat.le_succ_of_le (ih later)

theorem Toml.length_readEscape (read : Toml.readEscape input = some (character, after)) :
    after.length < input.length := by
  unfold readEscape at read
  split at read
  case h_8 | h_9 =>
    obtain ⟨⟨code, next⟩, hex, scalar⟩ := Option.bind_eq_some_iff.mp read
    obtain ⟨known, -, same⟩ := Option.bind_eq_some_iff.mp scalar
    cases same
    exact Nat.lt_succ_of_le (length_readHex hex)
  case h_10 => cases read
  all_goals
    cases read
    exact Nat.lt_succ_self _

/-- What stands between quotes is shorter than the whole. -/
theorem Environment.length_readQuoted {fuel : Nat}
    (read : Environment.readQuoted fuel input = some (characters, after)) :
    characters.length + after.length < input.length := by
  fun_induction Environment.readQuoted fuel input generalizing characters with
  | case1 => cases read
  | case2 => cases read
  | case3 =>
      cases read
      simp
  | case4 fuel rest ih =>
      obtain ⟨⟨character, next⟩, escaped, later⟩ := Option.bind_eq_some_iff.mp read
      obtain ⟨⟨inner, last⟩, further, same⟩ := Option.bind_eq_some_iff.mp later
      cases same
      have bound := ih next further
      have shorter := Toml.length_readEscape escaped
      simp only [List.length_cons]
      omega
  | case5 fuel character rest noQuote noEscape ih =>
      obtain ⟨⟨inner, last⟩, further, same⟩ := Option.map_eq_some_iff.mp read
      cases same
      have bound := ih further
      simp only [List.length_cons]
      omega

end Lengths

namespace Environment

/-- What a text is taken for, if it is not taken as it is. -/
inductive Guess : List Char → Entry → Prop
  /-- A list or a table. -/
  | structured {first : Char} {rest : List Char} (opens : first = '[' ∨ first = '\x7b')
      (whole : isStructured (first :: rest) = true) : Guess (first :: rest) .other
  /-- A text between double quotes. -/
  | quoted {rest inner : List Char}
      (whole : readQuoted (rest.length + 1) rest = some (inner, [])) :
      Guess ('"' :: rest) (.text (String.ofList inner))
  /-- A character between single quotes. -/
  | character (character : Char) : Guess ['\'', character, '\''] (.text character.toString)
  /-- A list without brackets, a truth value or a number. -/
  | bare {characters : List Char}
      (opens : ∀ first ∈ ['[', '\x7b', '"', '\''], characters.head? ≠ some first)
      (like : ',' ∈ characters ∨
        Text.equalIgnoringCase "true" (String.ofList characters) = true ∨
        Text.equalIgnoringCase "false" (String.ofList characters) = true ∨
        isNumber characters = true) : Guess characters .other

section Guesses

variable {characters : List Char} {entry : Entry}

theorem readValue_bare (opens : ∀ first ∈ ['[', '\x7b', '"', '\''], characters.head? ≠ some first) :
    readValue characters =
      if characters.contains ',' || Text.equalIgnoringCase "true" (String.ofList characters) ||
        Text.equalIgnoringCase "false" (String.ofList characters) || isNumber characters then
        .other
      else .text (String.ofList characters) := by
  unfold readValue
  split
  · exact absurd rfl (opens '[' (by decide))
  · exact absurd rfl (opens '\x7b' (by decide))
  · exact absurd rfl (opens '"' (by decide))
  · exact absurd rfl (opens '\'' (by decide))
  · exact absurd rfl (opens '\'' (by decide))
  · rfl

theorem readValue_of_guess (guess : Guess characters entry) : readValue characters = entry := by
  cases guess with
  | structured opens whole => obtain rfl | rfl := opens <;> simp [readValue, whole]
  | quoted whole => simp [readValue, whole]
  | character character => rfl
  | bare opens like =>
      rw [readValue_bare opens, if_pos]
      simpa [or_assoc] using like

theorem readValue_of_no_guess (plain : ∀ entry, ¬Guess characters entry) :
    readValue characters = .text (String.ofList characters) := by
  by_cases bare : ∀ first ∈ ['[', '\x7b', '"', '\''], characters.head? ≠ some first
  · rw [readValue_bare bare, if_neg]
    intro like
    exact plain .other (.bare bare (by simpa [or_assoc] using like))
  · cases characters with
    | nil => exact absurd (fun _ _ => nofun) bare
    | cons first rest =>
        have opens : first = '[' ∨ first = '\x7b' ∨ first = '"' ∨ first = '\'' := by
          simp only [List.head?_cons, ne_eq, Option.some.injEq, List.forall_mem_cons] at bare
          grind
        obtain rfl | rfl | rfl | rfl := opens
        · have flat : ¬isStructured ('[' :: rest) = true := fun whole =>
            plain .other (.structured (.inl rfl) whole)
          simp [readValue, flat]
        · have flat : ¬isStructured ('\x7b' :: rest) = true := fun whole =>
            plain .other (.structured (.inr rfl) whole)
          simp [readValue, flat]
        · rw [readValue]
          split
          next inner whole => exact absurd (.quoted whole) (plain _)
          next => rfl
        · rw [readValue.eq_def]
          split
          next same => exact absurd (List.cons.inj same).1 (by decide)
          next same => exact absurd (List.cons.inj same).1 (by decide)
          next same => exact absurd (List.cons.inj same).1 (by decide)
          next character same =>
            rw [same] at plain
            exact absurd (.character character) (plain _)
          next => rfl
          next other => exact absurd rfl (other rest)

theorem Guess.shorter {text : String} (guess : Guess characters (.text text)) :
    text.toList.length < characters.length := by
  cases guess with
  | quoted whole =>
      have bound := length_readQuoted whole
      rw [String.toList_ofList, List.length_cons]
      exact Nat.lt_succ_of_lt (Nat.lt_of_le_of_lt (Nat.le_add_right _ _) bound)
  | character character => simp

theorem length_trim_le (text : String) : (Text.trim text).toList.length ≤ text.toList.length := by
  rw [Text.trim, String.toList_ofList, Text.trimChars, List.length_reverse]
  have inner := (text.toList.dropWhile_suffix Text.isBlank).length_le
  have outer := ((text.toList.dropWhile Text.isBlank).reverse.dropWhile_suffix
    Text.isBlank).length_le
  rw [List.length_reverse] at outer
  exact Nat.le_trans outer inner

/-- A text is read as it is exactly if no blanks are around it and there is nothing to guess. -/
theorem readValue_trim_eq_iff {text : String} :
    readValue (Text.trim text).toList = .text text ↔
      Text.trim text = text ∧ ∀ entry, ¬Guess text.toList entry := by
  constructor
  · intro read
    by_cases plain : ∀ entry, ¬Guess (Text.trim text).toList entry
    · rw [readValue_of_no_guess plain, String.ofList_toList] at read
      have same := Entry.text.inj read
      rw [same] at plain
      exact ⟨same, plain⟩
    · obtain ⟨entry, guess⟩ := Classical.not_forall_not.mp plain
      obtain rfl : entry = .text text := (readValue_of_guess guess).symm.trans read
      exact absurd (length_trim_le text) (Nat.not_le_of_lt guess.shorter)
  · rintro ⟨same, plain⟩
    rw [same, readValue_of_no_guess plain, String.ofList_toList]

end Guesses

theorem layer_filter {before after : List (String × String)} (silent : Silent (before ++ after))
    (filter : String) :
    layer (before ++ ("NDB_LOG_FILTER", filter) :: after) =
      ⟨none, some (readValue (Text.trim filter).toList), none⟩ :=
  layer_variable silent .logFilter filter

end Environment

namespace Flags

open CommandLine

theorem read_filter (filter : String) :
    Flags.read [.ofString ("--log-filter=" ++ filter)] =
      .ok ⟨⟨none, some (.text filter), none⟩, none⟩ := by
  let option := Settings.Key.logFilter.option
  have givable : Givable level [(option, filter)] :=
    .cons (Settings.Key.option_mem _) (ValueRule.check_text _ filter) (List.forall_mem_nil _)
      (.nil _)
  have stepped := @foldlM_assign level [(option, filter)] .start legible_level givable nofun
    rfl rfl
  rw [List.map_singleton, show option.assign filter = "--log-filter=" ++ filter from
    Settings.Key.assign_option _ filter] at stepped
  refine read_eq_ok_iff.mpr ⟨_, (Level.read_eq_ok_iff rfl).mpr ⟨_, stepped, rfl⟩, ?_⟩
  simp [given, nameOf?, textOf?, Progress.values, Progress.start, taken, option,
    Settings.Key.option, level]

end Flags

namespace ConfigFile

/-- The document gives the log filter, and nothing else that counts. -/
structure GivesFilter (document : Toml.Entries) (filter : String) : Prop where
  filter_eq : document.get? "log_filter" = some (.text filter)
  noBus : document.get? "bus" = none
  noFormat : document.get? "log_format" = none
  noBase : document.get? "extends" = none

variable {document : Toml.Entries} {filter : String}

theorem GivesFilter.alone (gives : GivesFilter document filter) :
    GivesAlone document .logFilter filter where
  here := gives.filter_eq
  nothing_else other different := by
    cases other with
    | bus => exact gives.noBus
    | logFilter => exact absurd rfl different
    | logFormat => exact gives.noFormat
  noBase := gives.noBase

theorem givesFilter_write (filter : String) :
    ∃ document, Toml.read? (Toml.write [("log_filter", filter)]) = some document ∧
      GivesFilter document filter := by
  obtain ⟨document, reads, gives⟩ := givesAlone_write .logFilter filter
  exact ⟨document, reads, gives.here, gives.nothing_else .bus (by decide),
    gives.nothing_else .logFormat (by decide), gives.noBase⟩

end ConfigFile

namespace Settings

/-- The settings where only the log filter is given. -/
def filtering (filter : String) : Settings :=
  { Settings.default with logFilter := filter }

/-- What is loaded where only an entry for the log filter is given. -/
def ofFilter : Entry → Except SettingsError Settings
  | .text filter => .ok (filtering filter)
  | .other => .error .merge

theorem ofFilter_eq_ok_iff {entry : Entry} {filter : String} :
    ofFilter entry = .ok (filtering filter) ↔ entry = .text filter := by
  cases entry <;> simp [ofFilter, filtering]

section Sources

open ConfigFile

variable {surroundings : Surroundings} {program : RawText} {words : List RawText}
  {filter : String}

theorem load_of_filter {given : Flags.Given} {file : Layer} (read : Flags.read words = .ok given)
    (gathered : gather surroundings given.configPath? = (file, []))
    (merged : given.layer.onTopOf ((Environment.layer surroundings.environment).onTopOf file) =
      ⟨none, some (.text filter), none⟩) :
    load surroundings (program :: words) = .ok (filtering filter) :=
  load_eq_ok_iff.mpr ⟨given, file, read, gathered, by rw [merged]; rfl⟩

theorem load_variable {entry : Entry} (noFiles : ∀ place, surroundings.contents? place = none)
    (gives : Environment.layer surroundings.environment = ⟨none, some entry, none⟩) :
    load surroundings [program] = ofFilter entry := by
  rw [load_environment noFiles, gives]
  cases entry <;> rfl

section Files

variable {document : Toml.Entries} {place : String} {path : RawText}

theorem loaded_filter (gives : GivesFilter document filter) :
    loaded (layer document).settings? = .ok (filtering filter) := by
  rw [gives.alone.layer_eq]
  rfl

theorem load_usual (silent : Environment.Silent surroundings.environment)
    (found : document? surroundings place = some document) (gives : GivesFilter document filter)
    (usual : place ∈ candidates surroundings)
    (only : ∀ other, other ≠ place → surroundings.contents? other = none) :
    load surroundings [program] = .ok (filtering filter) := by
  rw [load_usual_file silent found gives.alone.unextended usual only, loaded_filter gives]

theorem load_named (silent : Environment.Silent surroundings.environment)
    (found : document? surroundings place = some document) (gives : GivesFilter document filter)
    (named : path.bytes ≠ []) (required : requiredPath surroundings path = some place) :
    load surroundings
        [program, ⟨(RawText.ofString "--config-path").bytes ++ 0x3D :: path.bytes⟩] =
      .ok (filtering filter) := by
  rw [load_named_file silent found gives.alone.unextended named required, loaded_filter gives]

end Files

/-- The log filter can be given by a flag, by a file in a usual place or one that is named, and by
a variable.  A flag and a file give every text as it is.  A variable gives a text as it is exactly
if no blanks are around it and it is not taken for something else; what is taken for something
that is no text cannot be loaded. -/
theorem log_filter_by_source (filter : String) (program : RawText) (directory : String)
    {before after : List (String × String)} (silent : Environment.Silent (before ++ after)) :
    let beside (contents? : String → Option String) : Surroundings :=
      ⟨before ++ after, directory, contents?⟩
    let exported : Surroundings :=
      ⟨before ++ ("NDB_LOG_FILTER", filter) :: after, directory, fun _ => none⟩
    load (beside fun _ => none) [program, .ofString ("--log-filter=" ++ filter)] =
        .ok (filtering filter) ∧
      (∀ contents? place document, document? (beside contents?) place = some document →
        GivesFilter document filter →
        (place ∈ candidates (beside contents?) →
          (∀ other, other ≠ place → contents? other = none) →
            load (beside contents?) [program] = .ok (filtering filter)) ∧
        ∀ path, path.bytes ≠ [] → requiredPath (beside contents?) path = some place →
          load (beside contents?)
              [program, ⟨(RawText.ofString "--config-path").bytes ++ 0x3D :: path.bytes⟩] =
            .ok (filtering filter)) ∧
      (∃ document, Toml.read? (Toml.write [("log_filter", filter)]) = some document ∧
        GivesFilter document filter) ∧
      (load exported [program] = .ok (filtering filter) ↔
        Text.trim filter = filter ∧ ∀ entry, ¬Environment.Guess filter.toList entry) ∧
      ((∀ entry, ¬Environment.Guess (Text.trim filter).toList entry) →
        load exported [program] = .ok (filtering (Text.trim filter))) ∧
      ∀ entry, Environment.Guess (Text.trim filter).toList entry →
        load exported [program] = ofFilter entry := by
  intro beside exported
  have loaded := @load_variable exported program _ (fun _ => rfl)
    (Environment.layer_filter silent filter)
  refine ⟨?_, ?_, givesFilter_write filter, ?_, ?_, ?_⟩
  · exact load_of_filter (Flags.read_filter filter) (gather_none fun _ => rfl) (by
      rw [Environment.layer_silent silent]
      rfl)
  · intro contents? place document found gives
    exact ⟨load_usual silent found gives, fun path => load_named silent found gives⟩
  · rw [loaded, ofFilter_eq_ok_iff, Environment.readValue_trim_eq_iff]
  · intro plain
    rw [loaded, Environment.readValue_of_no_guess plain, String.ofList_toList]
    rfl
  · intro entry guess
    rw [loaded, Environment.readValue_of_guess guess]

/-- A filter with two directives is taken for a list where it stands in a variable. -/
theorem directives_in_variable :
    Environment.Silent [("HOME", "/home/reader")] ∧
      load ⟨[("HOME", "/home/reader")], "/", fun _ => none⟩
          [.ofString "ndb-cli", .ofString "--log-filter=warn,ndb_engine=debug"] =
        .ok (filtering "warn,ndb_engine=debug") ∧
      load ⟨[("HOME", "/home/reader"), ("NDB_LOG_FILTER", "warn,ndb_engine=debug")], "/",
          fun _ => none⟩ [.ofString "ndb-cli"] =
        .error .merge := by
  have silent : Environment.Silent ([("HOME", "/home/reader")] ++ []) := by
    rintro entry member
    obtain rfl := List.mem_singleton.mp member
    decide +kernel
  obtain ⟨flag, -, -, -, -, guessed⟩ := log_filter_by_source "warn,ndb_engine=debug"
    (.ofString "ndb-cli") "/" silent
  have opens : (Text.trim "warn,ndb_engine=debug").toList.head? = some 'w' := by decide +kernel
  refine ⟨silent, flag, guessed .other (.bare ?_ (.inl ?_))⟩
  · simp [opens]
  · decide +kernel

end Sources

end Settings

end BusBridge
