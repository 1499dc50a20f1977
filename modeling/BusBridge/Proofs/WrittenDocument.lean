import BusBridge.Toml.Reader
import BusBridge.Toml.Writing

/-!
# Reading a written document

What was written as TOML is read back: every key with its text, whatever characters the text
has.
-/

namespace BusBridge

namespace Toml

section Text

theorem readHex_append {count value code : Nat} {digits : List Char}
    (read : readHex count value digits = some (code, [])) (rest : List Char) :
    readHex count value (digits ++ rest) = some (code, rest) := by
  induction count generalizing value digits with
  | zero =>
      obtain ⟨rfl, rfl⟩ := Prod.mk.inj (Option.some.inj read)
      rfl
  | succ count ih =>
      cases digits with
      | nil => cases read
      | cons digit digits =>
          rw [List.cons_append]
          rw [readHex] at read ⊢
          cases known : Json.hexDigit? digit with
          | none =>
              rw [known] at read
              cases read
          | some number =>
              rw [known] at read
              exact ih read

theorem readHex_hexPadded :
    ∀ code < 128, readHex 4 0 (Text.hexPadded 4 code) = some (code, []) := by
  decide +kernel

theorem toNat_lt_of_isControl {character : Char} (control : isControl character = true) :
    character.toNat < 128 := by
  rw [isControl, Bool.or_eq_true, Bool.and_eq_true, decide_eq_true_eq, decide_eq_true_eq]
    at control
  rcases control with ⟨below, -⟩ | rfl
  · omega
  · decide

theorem readEscape_code {character : Char} (control : isControl character = true)
    (rest : List Char) :
    readEscape ('u' :: Text.hexPadded 4 character.toNat ++ rest) = some (character, rest) := by
  have code := readHex_append
    (readHex_hexPadded character.toNat (toNat_lt_of_isControl control)) rest
  have valid : scalarOf? character.toNat = some character := by
    rw [scalarOf?, Char.ofNat_toNat]
    exact if_pos character.valid
  simp [readEscape, code, valid]

theorem readBasic_backslash {escape rest : List Char} {character : Char}
    (read : readEscape escape = some (character, rest)) (fuel : Nat) :
    readBasic (fuel + 1) ('\\' :: escape) =
      (readBasic fuel rest).map fun (characters, after) => (character :: characters, after) := by
  rw [readBasic, read]
  cases followed : readBasic fuel rest <;> simp [followed]

/-- Every character is read back from its written form. -/
theorem readBasic_escapedChar (fuel : Nat) (character : Char) (rest : List Char) :
    readBasic (fuel + 1) (escapedChar character ++ rest) =
      (readBasic fuel rest).map fun (characters, after) => (character :: characters, after) := by
  unfold escapedChar
  split
  next special =>
    refine readBasic_backslash ?_ fuel
    rcases special with rfl | rfl <;> rfl
  next ordinary =>
  obtain ⟨noQuote, noBackslash⟩ := not_or.mp ordinary
  split
  next control => exact readBasic_backslash (readEscape_code control rest) fuel
  next visible =>
    rw [List.singleton_append, readBasic, if_neg visible]
    · exact noQuote
    · exact noBackslash

theorem readBasic_escaped {characters : List Char} {fuel : Nat}
    (enough : characters.length < fuel) (rest : List Char) :
    readBasic fuel (characters.flatMap escapedChar ++ '"' :: rest) = some (characters, rest) := by
  induction characters generalizing fuel with
  | nil =>
      obtain ⟨fuel, rfl⟩ := Nat.exists_eq_add_one_of_ne_zero (Nat.ne_of_gt enough)
      rfl
  | cons character characters ih =>
      obtain ⟨fuel, rfl⟩ :=
        Nat.exists_eq_add_one_of_ne_zero (Nat.ne_of_gt (Nat.zero_lt_of_lt enough))
      rw [List.flatMap_cons, List.append_assoc, readBasic_escapedChar,
        ih (Nat.lt_of_succ_lt_succ enough)]
      rfl

end Text

/-- A key that needs no quotes. -/
structure IsBare (key : String) : Prop where
  ne_empty : key.toList ≠ []
  bare : ∀ character ∈ key.toList, isBareChar character = true

section Line

variable {first : Char} {rest characters : List Char} {key value : String}

theorem bare_ne (bare : isBareChar first = true) (other : Char)
    (special : isBareChar other = false) : first ≠ other := by
  rintro rfl
  rw [special] at bare
  cases bare

theorem skipBlanks_bare (bare : isBareChar first = true) :
    skipBlanks (first :: rest) = first :: rest := by
  have visible : ¬isBlank first = true := by
    simp [isBlank, bare_ne bare ' ' (by decide),
      bare_ne bare '\t' (by decide)]
  rw [skipBlanks, List.dropWhile_cons, if_neg visible]

theorem skipSpace_bare (bare : isBareChar first = true) (fuel : Nat) :
    skipSpace (fuel + 1) (first :: rest) = some (first :: rest) := by
  have noReturn := bare_ne bare '\r' (by decide)
  have noHash := bare_ne bare '#' (by decide)
  have visible : ¬(isBlank first || first = '\n') = true := by
    simp [isBlank, bare_ne bare ' ' (by decide),
      bare_ne bare '\t' (by decide), bare_ne bare '\n' (by decide)]
  have lines : skipLines (first :: rest) = first :: rest := by
    rw [skipLines, if_neg visible]
    intro after same
    exact absurd same noReturn
  rw [skipSpace, lines]
  simp [noHash]

theorem takeWhile_bare (bare : IsBare key) (rest : List Char) :
    (key.toList ++ ' ' :: rest).takeWhile isBareChar = key.toList := by
  rw [List.takeWhile_append_of_pos bare.bare]
  simp [isBareChar]

theorem dropWhile_bare (bare : IsBare key) (rest : List Char) :
    (key.toList ++ ' ' :: rest).dropWhile isBareChar = ' ' :: rest := by
  rw [List.dropWhile_append_of_pos bare.bare]
  simp [isBareChar]

theorem readPart_bare (bare : IsBare key) (rest : List Char) :
    readPart (key.toList ++ ' ' :: rest) = some (key, ' ' :: rest) := by
  have named : (key.toList.isEmpty : Bool) = false := by
    rw [List.isEmpty_eq_false_iff]
    exact bare.ne_empty
  have noQuote : ∀ other, isBareChar other = false → ∀ after, key.toList ++ ' ' :: rest ≠
      other :: after := by
    intro other special after same
    cases characters : key.toList with
    | nil => exact bare.ne_empty characters
    | cons first others =>
        rw [characters, List.cons_append] at same
        have bareFirst := bare.bare first (characters ▸ List.mem_cons_self)
        exact bare_ne bareFirst other special (List.cons.inj same).1
  unfold readPart
  split
  next after same => exact absurd same (noQuote '"' (by decide) after)
  next after same => exact absurd same (noQuote '\'' (by decide) after)
  · simp only [takeWhile_bare bare, dropWhile_bare bare, named, String.ofList_toList]
    rfl

theorem skipBlanks_key (bare : IsBare key) (rest : List Char) :
    skipBlanks (key.toList ++ rest) = key.toList ++ rest := by
  cases characters : key.toList with
  | nil => exact absurd characters bare.ne_empty
  | cons first others => exact skipBlanks_bare (bare.bare first (characters ▸ List.mem_cons_self))

theorem readKey_bare (fuel : Nat) (bare : IsBare key) (rest : List Char) :
    readKey (fuel + 1) (key.toList ++ ' ' :: '=' :: rest) = some (([], key), '=' :: rest) := by
  have blank : skipBlanks (' ' :: '=' :: rest) = '=' :: rest := by
    simp [skipBlanks, isBlank]
  rw [readKey, skipBlanks_key bare, readPart_bare bare]
  simp only [Option.bind_eq_bind, Option.bind_some, blank]
  rfl

/-- The written form of a character does not begin with a quote. -/
theorem exists_escapedChar (character : Char) :
    ∃ lead rest, escapedChar character = lead :: rest ∧ lead ≠ '"' := by
  unfold escapedChar
  split
  · exact ⟨_, _, rfl, by decide⟩
  next ordinary =>
  split
  · exact ⟨_, _, rfl, by decide⟩
  · exact ⟨_, _, rfl, (not_or.mp ordinary).1⟩

theorem length_le_length_flatMap_escapedChar (characters : List Char) :
    characters.length ≤ (characters.flatMap escapedChar).length := by
  induction characters with
  | nil => exact Nat.le_refl _
  | cons character characters ih =>
      obtain ⟨lead, rest, written, -⟩ := exists_escapedChar character
      rw [List.flatMap_cons, written, List.cons_append, List.length_cons, List.length_cons,
        List.length_append]
      omega

theorem writeText_append (value : String) (rest : List Char) :
    writeText value ++ rest = '"' :: (value.toList.flatMap escapedChar ++ '"' :: rest) := by
  simp [writeText]

theorem readQuoted_writeText (value : String) (rest : List Char) :
    readQuoted (writeText value ++ rest) = some (value, rest) := by
  have shorter := length_le_length_flatMap_escapedChar value.toList
  have enough : value.toList.length <
      (value.toList.flatMap escapedChar ++ '"' :: rest).length + 1 := by
    rw [List.length_append]
    omega
  rw [writeText_append, readQuoted, readBasic_escaped enough]
  simp

/-- A string without three quotes at its beginning stands in one. -/
theorem readString_eq_readQuoted {first second third : Char} {rest : List Char}
    (different : ¬(first = second ∧ second = third)) :
    readString (first :: second :: third :: rest) =
      readQuoted (first :: second :: third :: rest) :=
  if_neg fun same => different ⟨same.1, same.2.1⟩

theorem readString_writeText (value : String) (rest : List Char) :
    readString (writeText value ++ '\n' :: rest) = some (value, '\n' :: rest) := by
  rw [← readQuoted_writeText value ('\n' :: rest), writeText_append]
  cases value.toList with
  | nil => exact readString_eq_readQuoted fun same => absurd same.2 (by decide)
  | cons character others =>
      obtain ⟨lead, more, written, noQuote⟩ := exists_escapedChar character
      rw [List.flatMap_cons, written, List.cons_append, List.cons_append]
      cases followed : more ++ others.flatMap escapedChar ++ '"' :: '\n' :: rest with
      | nil => simp at followed
      | cons third after => exact readString_eq_readQuoted fun same => noQuote same.1.symm

theorem readItem_writeText (fuel : Nat) (value : String) (rest : List Char) :
    readItem (fuel + 1) (writeText value ++ '\n' :: rest) = some (.text value, '\n' :: rest) := by
  have read := readString_writeText value rest
  rw [writeText, List.cons_append, List.cons_append] at read ⊢
  rw [readItem, read]
  rfl

theorem endLine_newline (rest : List Char) : endLine ('\n' :: rest) = some rest := by
  simp [endLine, skipBlanks, isBlank, skipComment]

theorem readAssignment_writeLine (value : String) (bare : IsBare key) (rest : List Char) :
    readAssignment (writeLine (key, value) ++ rest) = some (([], key), .text value, rest) := by
  have line : writeLine (key, value) ++ rest =
      key.toList ++ ' ' :: '=' :: ' ' :: (writeText value ++ '\n' :: rest) := by
    simp [writeLine]
  have blank : skipBlanks (' ' :: (writeText value ++ '\n' :: rest)) =
      writeText value ++ '\n' :: rest := by
    simp [skipBlanks, isBlank, writeText]
  rw [line, readAssignment, readKey_bare _ bare]
  simp only [Option.bind_eq_bind, Option.bind_some, blank, readItem_writeText, endLine_newline]
  rfl

theorem exists_writeLine (value : String) (bare : IsBare key) :
    ∃ first rest, writeLine (key, value) = first :: rest ∧ isBareChar first = true := by
  cases characters : key.toList with
  | nil => exact absurd characters bare.ne_empty
  | cons first others =>
      have bareFirst := bare.bare first (characters ▸ List.mem_cons_self)
      refine ⟨first, others ++ ' ' :: '=' :: ' ' :: writeText value ++ ['\n'], ?_, bareFirst⟩
      rw [writeLine, characters]
      rfl

end Line

section Document

variable {entries : List (String × String)} {before : Entries}

/-- The entries of a document that gives these texts. -/
def texts (entries : List (String × String)) : Entries :=
  entries.map fun entry => (entry.1, .text entry.2)

theorem assignIn_fresh {key : String} (fresh : ∀ old ∈ before, old.1 ≠ key) (item : Item) :
    before.assignIn [] [] key item = some (before ++ [(key, item)]) := by
  have unset : before.get? key = none := by
    rw [Entries.get?, List.lookup_eq_none_iff]
    intro old member
    exact bne_iff_ne.mpr (fresh old member).symm
  have added : before.add key item = some (before ++ [(key, item)]) := by
    rw [Entries.add, unset]
  exact added

/-- A line that begins like a key sets a key. -/
theorem readLines_assignment {first : Char} {rest after : List Char} {header path : List String}
    {key : String} {item : Item} {next : Entries} (bare : isBareChar first = true)
    (read : readAssignment (first :: rest) = some ((path, key), item, after))
    (assigned : before.assignIn header path key item = some next) (fuel : Nat) :
    readLines (fuel + 1) before header (first :: rest) = readLines fuel next header after := by
  have noBracket := bare_ne bare '[' (by decide)
  rw [readLines, skipSpace_bare bare]
  simp only [Option.bind_eq_bind, Option.bind_some]
  split
  next same => cases same
  next same => exact absurd (List.cons.inj same).1 noBracket
  next same => exact absurd (List.cons.inj same).1 noBracket
  · simp only [read, Option.bind_some, assigned]

theorem readLines_write (bare : ∀ entry ∈ entries, IsBare entry.1)
    (once : entries.Pairwise fun first second => first.1 ≠ second.1)
    (fresh : ∀ old ∈ before, ∀ entry ∈ entries, old.1 ≠ entry.1) {fuel : Nat}
    (enough : entries.length < fuel) :
    readLines fuel before [] (entries.flatMap writeLine) = some (before ++ texts entries) := by
  induction entries generalizing before fuel with
  | nil =>
      obtain ⟨fuel, rfl⟩ := Nat.exists_eq_add_one_of_ne_zero (Nat.ne_of_gt enough)
      simp [readLines, skipSpace, skipLines, texts]
  | cons entry rest ih =>
      obtain ⟨fuel, rfl⟩ :=
        Nat.exists_eq_add_one_of_ne_zero (Nat.ne_of_gt (Nat.zero_lt_of_lt enough))
      obtain ⟨bareKey, bareRest⟩ := List.forall_mem_cons.mp bare
      obtain ⟨different, onceRest⟩ := List.pairwise_cons.mp once
      have assigned := assignIn_fresh (fun old member => fresh old member entry List.mem_cons_self)
        (.text entry.2)
      have read := readAssignment_writeLine entry.2 bareKey (rest.flatMap writeLine)
      have freshRest : ∀ old ∈ before ++ [(entry.1, Item.text entry.2)], ∀ later ∈ rest,
          old.1 ≠ later.1 := by
        intro old member later known
        rcases List.mem_append.mp member with member | member
        · exact fresh old member later (List.mem_cons_of_mem _ known)
        · obtain rfl := List.mem_singleton.mp member
          exact different later known
      have later := ih bareRest onceRest freshRest (Nat.lt_of_succ_lt_succ enough)
      obtain ⟨first, others, written, bareFirst⟩ := exists_writeLine entry.2 bareKey
      rw [written, List.cons_append] at read
      rw [List.flatMap_cons, written, List.cons_append,
        readLines_assignment bareFirst read assigned, later]
      simp [texts]

theorem length_le_length_write (entries : List (String × String)) :
    entries.length ≤ (entries.flatMap writeLine).length := by
  induction entries with
  | nil => exact Nat.le_refl _
  | cons entry rest ih =>
      simp only [List.flatMap_cons, writeLine, List.length_append, List.length_cons]
      omega

/-- What was written is read back. -/
theorem read?_write (bare : ∀ entry ∈ entries, IsBare entry.1)
    (once : entries.Pairwise fun first second => first.1 ≠ second.1) :
    read? (write entries) = some (texts entries) := by
  have enough := Nat.lt_succ_of_le (length_le_length_write entries)
  have unmarked : dropMark (entries.flatMap writeLine) = entries.flatMap writeLine := by
    cases entries with
    | nil => rfl
    | cons entry rest =>
        obtain ⟨first, others, written, bareFirst⟩ :=
          exists_writeLine entry.2 (bare entry List.mem_cons_self)
        have noMark := bare_ne bareFirst '\uFEFF' (by decide)
        rw [List.flatMap_cons, written, List.cons_append]
        unfold dropMark
        split
        next same => exact absurd (List.cons.inj same).1 noMark
        · rfl
  have fresh : ∀ old ∈ ([] : Entries), ∀ entry ∈ entries, old.1 ≠ entry.1 := nofun
  rw [read?, write, String.toList_ofList, unmarked]
  exact readLines_write bare once fresh enough

end Document


end Toml

end BusBridge
