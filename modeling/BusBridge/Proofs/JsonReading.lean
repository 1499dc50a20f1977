import BusBridge.Json.Reader

/-!
# Written documents are read back

A document in which nothing is kept as it was written is read back from its compact form:
integers with their digits, and texts whatever characters they have.
-/

namespace BusBridge

namespace Json

/-- No number and no text in the document is kept as it was written. -/
inductive Plain : Json → Prop
  | null : Plain null
  | boolean (flag : Bool) : Plain (boolean flag)
  | integer (number : Int) : Plain (integer number)
  | string (text : String) : Plain (string text)
  | array {items : List Json} (plain : ∀ item ∈ items, Plain item) : Plain (array items)
  | object {members : List (String × Json)} (plain : ∀ member ∈ members, Plain member.2) :
      Plain (object members)

theorem plain_array {α : Type} {write : α → Json} {items : List α}
    (plain : ∀ item ∈ items, (write item).Plain) : (array (items.map write)).Plain := by
  refine .array fun document member => ?_
  obtain ⟨item, inside, rfl⟩ := List.mem_map.mp member
  exact plain item inside

section Strings

theorem hexPadded_control : ∀ code < 0x20,
    Text.hexPadded 4 code =
        ['0', '0', Nat.digitChar (code / 16), Nat.digitChar (code % 16)] ∧
      hexDigit? (Nat.digitChar (code / 16)) = some (code / 16) ∧
      hexDigit? (Nat.digitChar (code % 16)) = some (code % 16) := by
  decide +kernel

/-- The piece is one character in its written form. -/
structure Spells (piece : Piece) (character : Char) : Prop where
  reads : ∀ rest, readPieces (escapedChar character ++ rest) =
    (readPieces rest).map fun (pieces, after) => (piece :: pieces, after)
  joins : ∀ pieces, joinPieces (piece :: pieces) = (joinPieces pieces).map (character :: ·)

theorem readPieces_escape {escape character : Char} (known : simpleEscape? escape = some character)
    (rest : List Char) :
    readPieces ('\\' :: escape :: rest) =
      (readPieces rest).map fun (pieces, after) => (.character character :: pieces, after) := by
  have other : escape ≠ 'u' := by
    rintro rfl
    cases known
  rw [readPieces]
  · rw [known]
    cases readPieces rest <;> rfl
  · rintro first second third fourth more rfl
    exact absurd rfl other

theorem joinPieces_code {character : Char} (control : character.toNat < 0x20)
    (pieces : List Piece) :
    joinPieces (.code character.toNat :: pieces) = (joinPieces pieces).map (character :: ·) := by
  have low : ¬(0xD800 ≤ character.toNat ∧ character.toNat ≤ 0xDFFF) := by omega
  have noPair (code : Nat) : ¬(0xD800 ≤ character.toNat ∧ character.toNat ≤ 0xDBFF ∧
      0xDC00 ≤ code ∧ code ≤ 0xDFFF) := by omega
  cases pieces with
  | nil => simp [joinPieces, low]
  | cons piece pieces =>
      cases piece with
      | character other => simp [joinPieces, low]
      | code other => rw [joinPieces, if_neg (noPair other), if_neg low, Char.ofNat_toNat]

theorem escapedChar_cases (character : Char) :
    (∃ escape, simpleEscape? escape = some character ∧ escapedChar character = ['\\', escape]) ∨
      (character.toNat < 0x20 ∧
        escapedChar character = '\\' :: 'u' :: Text.hexPadded 4 character.toNat) ∨
      (0x20 ≤ character.toNat ∧ character ≠ '"' ∧ character ≠ '\\' ∧
        escapedChar character = [character]) := by
  by_cases named : character ∈ ['"', '\\', '\x08', '\x0c', '\n', '\r', '\t']
  · left
    simp only [List.mem_cons, List.not_mem_nil, or_false] at named
    rcases named with rfl | rfl | rfl | rfl | rfl | rfl | rfl <;> refine ⟨_, ?_, rfl⟩ <;> rfl
  · right
    simp only [List.mem_cons, List.not_mem_nil, or_false, not_or] at named
    obtain ⟨quote, backslash, backspace, feed, newline, back, tab⟩ := named
    by_cases control : character.toNat < 0x20
    · left
      simp [escapedChar, *]
    · right
      simp [escapedChar, *]
      omega

theorem exists_spells (character : Char) : ∃ piece, Spells piece character := by
  rcases escapedChar_cases character with ⟨escape, known, written⟩ | ⟨control, written⟩ |
    ⟨visible, noQuote, noBackslash, written⟩
  · refine ⟨.character character, fun rest => ?_, fun pieces => rfl⟩
    rw [written]
    exact readPieces_escape known rest
  · refine ⟨.code character.toNat, fun rest => ?_, joinPieces_code control⟩
    obtain ⟨padded, high, low⟩ := hexPadded_control character.toNat control
    have code : character.toNat / 16 * 16 + character.toNat % 16 = character.toNat := by omega
    rw [written, padded]
    simp only [List.cons_append, List.nil_append, readPieces, high, low,
      show hexDigit? '0' = some 0 from rfl]
    cases readPieces rest <;> simp [code]
  · refine ⟨.character character, fun rest => ?_, fun pieces => rfl⟩
    rw [written, List.singleton_append, readPieces]
    · have ordinary : ¬(character.toNat < 0x20 || character = '\\') = true := by
        simp [noBackslash, visible]
      rw [if_neg ordinary]
      cases readPieces rest <;> rfl
    · exact noQuote
    · exact fun _ _ _ _ _ same => absurd same noBackslash
    · exact fun _ _ same => absurd same noBackslash

theorem exists_pieces (characters rest : List Char) :
    ∃ pieces, readPieces (characters.flatMap escapedChar ++ '"' :: rest) = some (pieces, rest) ∧
      joinPieces pieces = some characters := by
  induction characters with
  | nil => exact ⟨[], rfl, rfl⟩
  | cons character characters ih =>
      obtain ⟨pieces, read, joined⟩ := ih
      obtain ⟨piece, reads, joins⟩ := exists_spells character
      refine ⟨piece :: pieces, ?_, ?_⟩
      · rw [List.flatMap_cons, List.append_assoc, reads, read]
        rfl
      · rw [joins, joined]
        rfl

theorem writeString_append (text : String) (rest : List Char) :
    writeString text ++ rest = '"' :: (text.toList.flatMap escapedChar ++ '"' :: rest) := by
  simp [writeString]

theorem readString_written (text : String) (rest : List Char) :
    readString (text.toList.flatMap escapedChar ++ '"' :: rest) = some (some text, rest) := by
  obtain ⟨pieces, read, joined⟩ := exists_pieces text.toList rest
  rw [readString, read]
  simp [joined]

end Strings

section Numbers

/-- The characters do not go on with a number. -/
def EndsNumber (rest : List Char) : Prop :=
  ∀ first, rest.head? = some first →
    first.isDigit = false ∧ first ≠ '.' ∧ first ≠ 'e' ∧ first ≠ 'E'

variable {rest : List Char}

theorem head?_toDigits_ne_zero {number : Nat} (positive : 0 < number) :
    (Nat.toDigits 10 number).head? ≠ some '0' := by
  induction number using Nat.strongRecOn with
  | ind number ih =>
      by_cases single : number < 10
      · have visible : ∀ digit < 10, 0 < digit → Nat.digitChar digit ≠ '0' := by decide
        rw [Nat.toDigits_of_lt_base single]
        simpa using visible number single positive
      · have shorter : number / 10 < number := by omega
        have first := ih (number / 10) shorter (by omega)
        rw [Nat.toDigits_of_base_le (by decide) (by omega)]
        cases digits : Nat.toDigits 10 (number / 10) with
        | nil => exact absurd digits Nat.toDigits_ne_nil
        | cons lead others =>
            rw [digits] at first
            exact first

theorem foldl_digits (digits : List Char) (start : Nat) :
    digits.foldl (fun (value : Int) digit => value * 10 + (digit.toNat - 48 : Nat)) start =
      Nat.ofDigitChars 10 digits start := by
  induction digits generalizing start with
  | nil => rfl
  | cons digit digits ih =>
      have next : (start : Int) * 10 + (digit.toNat - 48 : Nat) =
          (10 * start + (digit.toNat - '0'.toNat) : Nat) := by
        simp [Int.mul_comm]
      rw [List.foldl_cons, next, ih, Nat.ofDigitChars_cons]

theorem readDigits_toDigits (number : Nat) (ends : EndsNumber rest) :
    readDigits (Nat.toDigits 10 number ++ rest) = some (Nat.toDigits 10 number, rest) := by
  have isDigit : ∀ digit ∈ Nat.toDigits 10 number, digit.isDigit = true := fun digit member =>
    Nat.isDigit_of_mem_toDigits (by decide) (by decide) member
  have stops : rest.takeWhile Char.isDigit = [] ∧ rest.dropWhile Char.isDigit = rest := by
    cases rest with
    | nil => exact ⟨rfl, rfl⟩
    | cons first others => simp [(ends first rfl).1]
  simp only [readDigits, List.takeWhile_append_of_pos isDigit, List.dropWhile_append_of_pos isDigit,
    stops.1, stops.2, List.append_nil]
  exact if_neg (by simp [Nat.toDigits_ne_nil])

theorem readFraction_of_ends (ends : EndsNumber rest) : readFraction rest = some ([], rest) := by
  cases rest with
  | nil => rfl
  | cons first others =>
      rw [readFraction]
      rintro after same
      exact absurd (List.cons.inj same).1 (ends first rfl).2.1

theorem readExponent_of_ends (ends : EndsNumber rest) : readExponent rest = some ([], rest) := by
  cases rest with
  | nil => rfl
  | cons first others =>
      obtain ⟨-, -, small, large⟩ := ends first rfl
      simp [readExponent, small, large]

theorem readUnsigned_toDigits (negative : Bool) (number : Nat)
    (signed : negative = true → 0 < number) (ends : EndsNumber rest) :
    readUnsigned negative (Nat.toDigits 10 number ++ rest) =
      some (.integer (if negative then -(number : Int) else number), rest) := by
  have noZero : ¬((Nat.toDigits 10 number).length ≠ 1 ∧
      (Nat.toDigits 10 number).head? = some '0') := by
    rintro ⟨long, zero⟩
    cases number with
    | zero => exact long rfl
    | succ number => exact head?_toDigits_ne_zero (Nat.succ_pos number) zero
  have unsigned : (negative && Nat.toDigits 10 number == ['0']) = false := by
    cases negative with
    | false => rfl
    | true =>
        rw [Bool.true_and, beq_eq_false_iff_ne]
        intro zero
        exact head?_toDigits_ne_zero (signed rfl) (congrArg List.head? zero)
  have value : (Nat.toDigits 10 number).foldl
      (fun (value : Int) digit => value * 10 + (digit.toNat - 48 : Nat)) 0 = number := by
    rw [← Int.natCast_zero, foldl_digits, Nat.ofDigitChars_toDigits (by decide) (by decide)]
  rw [readUnsigned, readDigits_toDigits number ends]
  simp only [Option.bind_eq_bind, Option.bind_some, if_neg noZero, readFraction_of_ends ends,
    readExponent_of_ends ends, unsigned]
  simp [value]

theorem toList_toString (number : Int) :
    (toString number).toList =
      if number < 0 then '-' :: Nat.toDigits 10 number.natAbs
      else Nat.toDigits 10 number.natAbs := by
  cases number with
  | ofNat number =>
      rw [if_neg (by simp)]
      exact Nat.toList_repr
  | negSucc number =>
      rw [if_pos (Int.negSucc_lt_zero number)]
      exact (String.toList_append ..).trans (congrArg _ Nat.toList_repr)

theorem exists_digit (number : Nat) :
    ∃ first others, Nat.toDigits 10 number = first :: others ∧ first.isDigit = true := by
  cases digits : Nat.toDigits 10 number with
  | nil => exact absurd digits Nat.toDigits_ne_nil
  | cons first others =>
      have member : first ∈ Nat.toDigits 10 number := by simp [digits]
      exact ⟨first, others, rfl, Nat.isDigit_of_mem_toDigits (by decide) (by decide) member⟩

theorem readAtom_digit {first : Char} (digit : first.isDigit = true) (others : List Char) :
    readAtom (first :: others) = readUnsigned false (first :: others) := by
  have noWord (letter : Char) (word : letter.isDigit = false) : letter ≠ first := by
    rintro rfl
    exact absurd digit (Bool.eq_false_iff.mp word)
  have isTrue := noWord 't' rfl
  have isFalse := noWord 'f' rfl
  have isNull := noWord 'n' rfl
  have sign := noWord '-' rfl
  simp only [readAtom, List.isPrefixOf]
  simp only [beq_eq_false_iff_ne.mpr isTrue, beq_eq_false_iff_ne.mpr isFalse,
    beq_eq_false_iff_ne.mpr isNull, Bool.false_and, Bool.false_eq_true, if_false]
  split
  next same => exact absurd (List.cons.inj same).1.symm sign
  next => rfl

theorem readAtom_integer (number : Int) (ends : EndsNumber rest) :
    readAtom ((toString number).toList ++ rest) = some (.integer number, rest) := by
  rw [toList_toString]
  split
  next negative =>
    have positive : 0 < number.natAbs := Int.natAbs_pos.mpr (by omega)
    have value : -(number.natAbs : Int) = number := by omega
    have whole := readUnsigned_toDigits true number.natAbs (fun _ => positive) ends
    rw [if_pos rfl, value] at whole
    exact whole
  next unsigned =>
    have value : (number.natAbs : Int) = number := by omega
    have whole := readUnsigned_toDigits false number.natAbs nofun ends
    obtain ⟨first, others, digits, digit⟩ := exists_digit number.natAbs
    rw [digits, List.cons_append, readAtom_digit digit, ← List.cons_append, ← digits, whole,
      if_neg Bool.false_ne_true, value]

end Numbers

section Documents

variable {document : Json} {fuel : Nat} {rest : List Char}

theorem skipSpace_cons (first : Char) (visible : isSpace first = false) (others : List Char) :
    skipSpace (first :: others) = first :: others :=
  List.dropWhile_cons_of_neg (by simp [visible])

theorem endsNumber_cons (first : Char) (separator : first ∈ [',', ']', '\x7d'])
    (others : List Char) : EndsNumber (first :: others) := by
  rintro character ⟨⟩
  simp only [List.mem_cons, List.not_mem_nil, or_false] at separator
  obtain rfl | rfl | rfl := separator <;> decide

/-- The character can begin an integer. -/
def IsNumeral (first : Char) : Prop :=
  first.isDigit = true ∨ first = '-'

instance : DecidablePred IsNumeral :=
  fun first => inferInstanceAs (Decidable (first.isDigit = true ∨ first = '-'))

theorem IsNumeral.ne {first other : Char} (numeral : IsNumeral first) (apart : ¬IsNumeral other) :
    first ≠ other := by
  rintro rfl
  exact apart numeral

theorem IsNumeral.isSpace_eq {first : Char} (numeral : IsNumeral first) :
    isSpace first = false := by
  rw [Bool.eq_false_iff]
  intro blank
  simp only [isSpace, Bool.or_eq_true, decide_eq_true_eq, or_assoc] at blank
  revert numeral
  obtain rfl | rfl | rfl | rfl := blank <;> decide

theorem exists_numeral (number : Int) :
    ∃ first others, (toString number).toList = first :: others ∧ IsNumeral first := by
  rw [toList_toString]
  split
  next negative => exact ⟨_, _, rfl, .inr rfl⟩
  next unsigned =>
    obtain ⟨first, others, digits, digit⟩ := exists_digit number.natAbs
    exact ⟨first, others, digits, .inl digit⟩

theorem Plain.exists_start (plain : Plain document) :
    ∃ first others, document.write = first :: others ∧ isSpace first = false ∧ first ≠ ']' := by
  cases plain with
  | null => exact ⟨_, _, by rw [write]; rfl, rfl, by decide⟩
  | boolean flag =>
      cases flag with
      | false => exact ⟨_, _, by rw [write]; rfl, rfl, by decide⟩
      | true => exact ⟨_, _, by rw [write]; rfl, rfl, by decide⟩
  | integer number =>
      obtain ⟨first, others, digits, numeral⟩ := exists_numeral number
      exact ⟨first, others, by rw [write, digits], numeral.isSpace_eq, numeral.ne (by decide)⟩
  | string text => exact ⟨_, _, by rw [write]; rfl, rfl, by decide⟩
  | @array items plain =>
      cases items with
      | nil => exact ⟨_, _, by rw [write], rfl, by decide⟩
      | cons item items => exact ⟨_, _, by rw [write]; rfl, rfl, by decide⟩
  | @object members plain =>
      cases members with
      | nil => exact ⟨_, _, by rw [write], rfl, by decide⟩
      | cons member members => exact ⟨_, _, by rw [write]; rfl, rfl, by decide⟩

theorem readValue_atom {first : Char} {others : List Char} (visible : isSpace first = false)
    (noText : first ≠ '"') (noArray : first ≠ '[') (noObject : first ≠ '\x7b') :
    readValue (fuel + 1) (first :: others) = readAtom (first :: others) := by
  rw [readValue, skipSpace_cons first visible]
  split
  next same => exact absurd (List.cons.inj same).1 noText
  next same => exact absurd (List.cons.inj same).1 noArray
  next same => exact absurd (List.cons.inj same).1 noObject
  next => rfl

theorem readValue_array {first : Char} {others : List Char} (visible : isSpace first = false)
    (opens : first ≠ ']') :
    readValue (fuel + 1) ('[' :: first :: others) =
      (readItems fuel (first :: others)).map fun (items, after) => (array items, after) := by
  rw [readValue, skipSpace_cons '[' rfl]
  simp [skipSpace_cons first visible, opens]

theorem readValue_object {others : List Char} :
    readValue (fuel + 1) ('\x7b' :: '"' :: others) =
      (readMembers fuel ('"' :: others)).map fun (members, after) =>
        ((textKeys? members).elim (unpaired (sourceBefore ('\x7b' :: '"' :: others) after)) object,
          after) := by
  rw [readValue, skipSpace_cons '\x7b' rfl]
  simp [skipSpace_cons '"' rfl]

/-- The document is read back, with fuel for each of its characters. -/
def ReadBack (document : Json) : Prop :=
  ∀ fuel rest, document.write.length ≤ fuel → EndsNumber rest →
    readValue fuel (document.write ++ rest) = some (document, rest)

theorem readItems_written {item : Json} {items : List Json}
    (read : ∀ other ∈ item :: items, ReadBack other)
    (enough : item.write.length + (writeItems items).length ≤ fuel) :
    readItems fuel (item.write ++ (writeItems items ++ rest)) = some (item :: items, rest) := by
  induction items generalizing item fuel with
  | nil =>
      rw [writeItems] at enough ⊢
      cases fuel with
      | zero => cases enough
      | succ fuel =>
          have here := read item (List.mem_singleton_self item) fuel (']' :: rest)
            (Nat.le_of_succ_le_succ enough) (endsNumber_cons ']' (by decide) rest)
          rw [readItems]
          simp [here, skipSpace_cons, isSpace]
  | cons next items ih =>
      rw [writeItems] at enough ⊢
      simp only [List.cons_append, List.length_cons, List.length_append, List.append_assoc]
        at enough ⊢
      cases fuel with
      | zero => cases enough
      | succ fuel =>
          have here := read item List.mem_cons_self fuel
            (',' :: (next.write ++ (writeItems items ++ rest))) (by omega)
            (endsNumber_cons ',' (by decide) _)
          have later : readItems fuel (next.write ++ (writeItems items ++ rest)) =
              some (next :: items, rest) :=
            ih (fun other member => read other (List.mem_cons_of_mem item member)) (by omega)
          rw [readItems]
          simp [here, later, skipSpace_cons, isSpace]

/-- The members of an object as they are read. -/
def keyed (members : List (String × Json)) : List (Option String × Json) :=
  members.map fun (key, value) => (some key, value)

theorem textKeys?_keyed (members : List (String × Json)) :
    textKeys? (keyed members) = some members := by
  induction members with
  | nil => rfl
  | cons member members ih =>
      rw [keyed, List.map_cons, textKeys?, ← keyed, ih]
      rfl

theorem readMembers_written {key : String} {value : Json} {members : List (String × Json)}
    (read : ∀ other ∈ (key, value) :: members, ReadBack other.2)
    (enough : value.write.length + (writeMembers members).length < fuel) :
    readMembers fuel (writeString key ++ (':' :: (value.write ++ (writeMembers members ++ rest)))) =
      some (keyed ((key, value) :: members), rest) := by
  induction members generalizing key value fuel with
  | nil =>
      have back : ReadBack value := read (key, value) List.mem_cons_self
      rw [writeMembers] at enough ⊢
      cases fuel with
      | zero => cases enough
      | succ fuel =>
          have here := back fuel ('\x7d' :: rest) (by simp at enough; omega)
            (endsNumber_cons '\x7d' (by decide) rest)
          rw [readMembers, writeString_append]
          simp [here, readString_written, skipSpace_cons, isSpace, keyed]
  | cons next members ih =>
      obtain ⟨nextKey, nextValue⟩ := next
      have back : ReadBack value := read (key, value) List.mem_cons_self
      rw [writeMembers] at enough ⊢
      simp only [List.cons_append, List.length_cons, List.length_append, List.append_assoc]
        at enough ⊢
      cases fuel with
      | zero => cases enough
      | succ fuel =>
          have later := ih (fun other member => read other (List.mem_cons_of_mem _ member))
            (show nextValue.write.length + (writeMembers members).length < fuel by omega)
          have here := back fuel (',' :: (writeString nextKey ++
              (':' :: (nextValue.write ++ (writeMembers members ++ rest)))))
            (by omega) (endsNumber_cons ',' (by decide) _)
          rw [readMembers, writeString_append]
          simp [here, later, readString_written, skipSpace_cons, isSpace, keyed]

theorem Plain.readBack_of_succ (plain : Plain document)
    (read : ∀ fuel rest, document.write.length ≤ fuel + 1 → EndsNumber rest →
      readValue (fuel + 1) (document.write ++ rest) = some (document, rest)) :
    ReadBack document := by
  intro fuel rest enough ends
  obtain ⟨first, others, start, -, -⟩ := plain.exists_start
  cases fuel with
  | zero =>
      rw [start] at enough
      cases enough
  | succ fuel => exact read fuel rest enough ends

theorem readBack_array {items : List Json} (plain : ∀ item ∈ items, Plain item)
    (read : ∀ item ∈ items, ReadBack item) : ReadBack (array items) := by
  refine (Plain.array plain).readBack_of_succ fun fuel rest enough ends => ?_
  cases items with
  | nil =>
      rw [write, readValue]
      simp [skipSpace_cons, isSpace]
  | cons item items =>
      have whole : readItems fuel (item.write ++ (writeItems items ++ rest)) =
          some (item :: items, rest) := by
        rw [write] at enough
        exact readItems_written read (by simpa using enough)
      obtain ⟨first, others, start, visible, opens⟩ :=
        (plain item List.mem_cons_self).exists_start
      rw [start, List.cons_append] at whole
      rw [write, start]
      simp only [List.cons_append, List.append_assoc]
      rw [readValue_array visible opens, whole]
      rfl

theorem readBack_object {members : List (String × Json)}
    (plain : ∀ member ∈ members, Plain member.2)
    (read : ∀ member ∈ members, ReadBack member.2) : ReadBack (object members) := by
  refine (Plain.object plain).readBack_of_succ fun fuel rest enough ends => ?_
  cases members with
  | nil =>
      rw [write, readValue]
      simp [skipSpace_cons, isSpace]
  | cons member members =>
      obtain ⟨key, value⟩ := member
      have whole : readMembers fuel
            (writeString key ++ (':' :: (value.write ++ (writeMembers members ++ rest)))) =
          some (keyed ((key, value) :: members), rest) := by
        rw [write] at enough
        exact readMembers_written read (by simp at enough; omega)
      rw [writeString_append] at whole
      rw [write]
      simp only [List.cons_append, List.append_assoc, writeString_append]
      rw [readValue_object, whole]
      simp [textKeys?_keyed]

theorem readBack_integer (number : Int) : ReadBack (integer number) := by
  refine (Plain.integer number).readBack_of_succ fun fuel rest enough ends => ?_
  obtain ⟨first, others, digits, numeral⟩ := exists_numeral number
  have whole := readAtom_integer number ends
  rw [digits, List.cons_append] at whole
  rw [write, digits, List.cons_append, readValue_atom numeral.isSpace_eq (numeral.ne (by decide))
    (numeral.ne (by decide)) (numeral.ne (by decide)), whole]

theorem Plain.readBack (plain : Plain document) : ReadBack document := by
  induction plain with
  | null =>
      refine Plain.null.readBack_of_succ fun fuel rest enough ends => ?_
      rw [write]
      rfl
  | boolean flag =>
      refine (Plain.boolean flag).readBack_of_succ fun fuel rest enough ends => ?_
      cases flag <;> rw [write] <;> rfl
  | integer number => exact readBack_integer number
  | string text =>
      refine (Plain.string text).readBack_of_succ fun fuel rest enough ends => ?_
      rw [write, writeString_append, readValue]
      simp [skipSpace_cons, isSpace, readString_written]
  | array plain read => exact readBack_array plain read
  | object plain read => exact readBack_object plain read

/-- A plain document is read back from its compact form. -/
theorem read?_compact (plain : Plain document) : read? document.compact = some document := by
  have enough : document.write.length ≤ document.compact.length + 1 := by
    simp [compact]
  have whole := plain.readBack _ [] enough nofun
  rw [List.append_nil] at whole
  rw [read?, compact, String.toList_ofList, ← compact, whole]
  rfl

end Documents

end Json

end BusBridge
