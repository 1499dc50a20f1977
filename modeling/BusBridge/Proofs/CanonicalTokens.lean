import BusBridge.Proofs.IntegerTokens
import BusBridge.Proofs.JsonReading

/-!
# The canonical spelling of a value

A value can have many tokens: an integer with zeros in front, a truth value in six spellings.
The text that the value is displayed as is one of them, it has nothing that could be left out,
and it converts to the very same value again.  Doubles are left out, whose digits are rounded.
-/

namespace BusBridge

namespace IntegerType

/-- A decimal in which there is nothing that could be left out. -/
structure IsCanonical (characters : List Char) : Prop where
  no_plus : '+' ∉ characters
  no_leading_zero : ∀ rest, characters = '0' :: rest → rest = []
  no_zero_after_minus : ∀ rest, characters ≠ '-' :: '0' :: rest

section Digits

variable {character : Char} {digits : List Char}

theorem digit_lt_ten (isDigit : character.isDigit = true) :
    character.toNat - '0'.toNat < 10 := by
  have below : character.toNat ≤ 57 := (Char.isDigit_iff_toNat.mp isDigit).2
  have zero : '0'.toNat = 48 := rfl
  omega

theorem digit_pos (isDigit : character.isDigit = true) (nonzero : character ≠ '0') :
    0 < character.toNat - '0'.toNat := by
  have above : '0'.toNat ≤ character.toNat := (Char.isDigit_iff_toNat.mp isDigit).1
  have other : character.toNat ≠ '0'.toNat := fun same => nonzero (Char.toNat_inj.mp same)
  omega

theorem toDigits_digit (isDigit : character.isDigit = true) :
    Nat.toDigits 10 (character.toNat - '0'.toNat) = [character] := by
  obtain ⟨above, below⟩ : 48 ≤ character.toNat ∧ character.toNat ≤ 57 :=
    Char.isDigit_iff_toNat.mp isDigit
  have spelled : ∀ code < 58, 48 ≤ code →
      Nat.digitChar (code - '0'.toNat) = Char.ofNat code := by decide
  rw [Nat.toDigits_of_lt_base (digit_lt_ten isDigit),
    spelled character.toNat (by omega) above, Char.ofNat_toNat]

/-- Digits behind a positive number only lengthen its decimal. -/
theorem toDigits_ofDigitChars_of_pos {start : Nat} (positive : 0 < start)
    (isDigit : ∀ character ∈ digits, character.isDigit = true) :
    Nat.toDigits 10 (Nat.ofDigitChars 10 digits start) = Nat.toDigits 10 start ++ digits := by
  induction digits generalizing start with
  | nil => rw [Nat.ofDigitChars_nil, List.append_nil]
  | cons character rest ih =>
      obtain ⟨here, later⟩ := List.forall_mem_cons.mp isDigit
      rw [Nat.ofDigitChars_cons, ih (by omega) later,
        ← Nat.toDigits_append_toDigits (by decide) positive (digit_lt_ten here),
        toDigits_digit here, List.append_assoc, List.singleton_append]

/-- Digits without a zero in front are the decimal of the number that they denote. -/
theorem toDigits_ofDigitChars (some : digits ≠ [])
    (isDigit : ∀ character ∈ digits, character.isDigit = true)
    (shortest : ∀ rest, digits = '0' :: rest → rest = []) :
    Nat.toDigits 10 (Nat.ofDigitChars 10 digits 0) = digits := by
  cases digits with
  | nil => exact absurd rfl some
  | cons first rest =>
      obtain ⟨here, later⟩ := List.forall_mem_cons.mp isDigit
      by_cases zero : first = '0'
      · subst zero
        rw [shortest rest rfl]
        rfl
      · rw [Nat.ofDigitChars_cons, Nat.mul_zero, Nat.zero_add,
          toDigits_ofDigitChars_of_pos (digit_pos here zero) later, toDigits_digit here,
          List.singleton_append]

theorem toDigits_eq_zero_cons {number : Nat} {rest : List Char}
    (zero : Nat.toDigits 10 number = '0' :: rest) : number = 0 := by
  rcases Nat.eq_zero_or_pos number with none | positive
  · exact none
  · exact absurd (congrArg List.head? zero) (Json.head?_toDigits_ne_zero positive)

theorem not_mem_toDigits (foreign : character.isDigit = false) (number : Nat) :
    character ∉ Nat.toDigits 10 number := by
  intro member
  rw [Nat.isDigit_of_mem_toDigits (by decide) (by decide) member] at foreign
  cases foreign

end Digits

section Canonical

variable {type : IntegerType} {characters : List Char} {number : Int}

theorem isCanonical_toString (number : Int) : IsCanonical (toString number).toList := by
  rw [Json.toList_toString]
  split
  · next negative =>
      refine ⟨?_, nofun, ?_⟩
      · rw [List.mem_cons, not_or]
        exact ⟨by decide, not_mem_toDigits rfl _⟩
      · intro rest zero
        have none := toDigits_eq_zero_cons (List.cons.inj zero).2
        omega
  · next unsigned =>
      refine ⟨not_mem_toDigits rfl _, ?_, ?_⟩
      · intro rest zero
        rw [toDigits_eq_zero_cons zero] at zero
        exact (List.cons.inj zero).2.symm
      · intro rest minus
        have signless : '-' ∉ Nat.toDigits 10 number.natAbs := not_mem_toDigits rfl _
        exact signless (minus ▸ List.mem_cons_self)

/-- A number has one canonical decimal only. -/
theorem eq_toString_of_denotes (canonical : IsCanonical characters)
    (denotes : type.Denotes characters number) : characters = (toString number).toList := by
  rw [Json.toList_toString]
  cases denotes with
  | bare some isDigit =>
      rw [if_neg (by omega), Int.natAbs_natCast,
        toDigits_ofDigitChars some isDigit canonical.no_leading_zero]
  | plus some isDigit => exact absurd List.mem_cons_self canonical.no_plus
  | @minus digits allowed some isDigit =>
      have noZero : ∀ rest, digits ≠ '0' :: rest := by
        rintro rest rfl
        exact canonical.no_zero_after_minus rest rfl
      have whole := toDigits_ofDigitChars some isDigit fun rest zero => absurd zero (noZero rest)
      have negative : -(Nat.ofDigitChars 10 digits 0 : Int) < 0 := by
        rcases Nat.eq_zero_or_pos (Nat.ofDigitChars 10 digits 0) with none | positive
        · rw [none] at whole
          exact absurd whole.symm (noZero [])
        · omega
      rw [if_pos negative, Int.natAbs_neg, Int.natAbs_natCast, whole]

theorem denotes_toString (number : type.Number) :
    type.Denotes (toString number.val).toList number.val := by
  have denoted := denotes_padded number 0
  rw [padded, List.replicate_zero, List.append_nil] at denoted
  rw [Json.toList_toString]
  by_cases negative : number.val < 0
  · rwa [if_pos negative] at denoted ⊢
  · rwa [if_neg negative] at denoted ⊢

end Canonical

end IntegerType

namespace Value

section Spelling

variable {value : Value} {tag : String}

theorem read_display {type : ScalarType} (typed : value.type? = some type)
    (exact : type ≠ .double) : read type value.display = .ok value := by
  cases value with
  | integer type number =>
      obtain rfl := Option.some.inj typed
      rw [read_integer_eq_ok_iff]
      exact ⟨number, IntegerType.denotes_toString number, rfl⟩
  | boolean flag =>
      obtain rfl := Option.some.inj typed
      cases flag <;> rfl
  | double number =>
      obtain rfl := Option.some.inj typed
      exact absurd rfl exact
  | string text =>
      obtain rfl := Option.some.inj typed
      rfl
  | other text => cases typed

theorem coerce_display {type : ScalarType} (typed : value.type? = some type)
    (exact : type ≠ .double) :
    coerce (String.singleton type.tag) value.display = .ok value :=
  coerce_eq_ok_iff.mpr ⟨type, rfl, read_display typed exact⟩

/-- What a token converted to converts back, as it is displayed. -/
theorem coerce_display_of_coerce {token : String} (exact : tag ≠ "d")
    (converted : coerce tag token = .ok value) : coerce tag value.display = .ok value := by
  obtain ⟨type, rfl, denoted⟩ := coerce_eq_ok_iff.mp converted
  refine coerce_display (type?_of_read denoted) ?_
  rintro rfl
  exact exact rfl

end Spelling

/-- Displaying a value and converting a token are inverse to each other, for all values but
doubles and what is no scalar.  The displayed text of what a token converts to is its canonical
spelling: it converts to the same value again, and two tokens mean the same exactly if they have
the same one.  For integers it has no plus sign, no zero that could be left out and no negative
zero, and every other token for the same number has one of these. -/
theorem display_inverts_coercion :
    (∀ value : Value, (∀ number, value ≠ .double number) → (∀ text, value ≠ .other text) →
      ∃ type, value.type? = some type ∧
        coerce (String.singleton type.tag) value.display = .ok value) ∧
    ∀ (tag token : String) (value : Value), tag ≠ "d" → coerce tag token = .ok value →
      coerce tag value.display = .ok value ∧
      (∀ (another : String) (other : Value), coerce tag another = .ok other →
        (other = value ↔ other.display = value.display)) ∧
      ∀ type : IntegerType, tag = String.singleton type.tag →
        IntegerType.IsCanonical value.display.toList ∧
          (IntegerType.IsCanonical token.toList → token = value.display) := by
  constructor
  · intro value noDouble scalar
    cases value with
    | integer type number => exact ⟨.integer type, rfl, coerce_display rfl nofun⟩
    | boolean flag => exact ⟨.boolean, rfl, coerce_display rfl nofun⟩
    | double number => exact absurd rfl (noDouble number)
    | string text => exact ⟨.string, rfl, coerce_display rfl nofun⟩
    | other text => exact absurd rfl (scalar text)
  · intro tag token value exact converted
    have back := coerce_display_of_coerce exact converted
    refine ⟨back, fun another other reads => ⟨congrArg display, fun same => ?_⟩, ?_⟩
    · have again := coerce_display_of_coerce exact reads
      rw [same, back] at again
      exact (Except.ok.inj again).symm
    · rintro type rfl
      obtain ⟨number, denotes, rfl⟩ := coerce_integer_eq_ok_iff.mp converted
      refine ⟨IntegerType.isCanonical_toString number.val, fun canonical => ?_⟩
      exact String.toList_inj.mp (IntegerType.eq_toString_of_denotes canonical denotes)

/-- The least number of a signed type has zeros too many, and is displayed without them. -/
theorem least_int16_is_canonical :
    coerce "n" "-0032768" = .ok (.integer .int16 ⟨-32768, by decide⟩) ∧
      coerce "n" "-32768" = .ok (.integer .int16 ⟨-32768, by decide⟩) ∧
      IntegerType.IsCanonical "-32768".toList ∧
      ¬ IntegerType.IsCanonical "-0032768".toList := by
  have converted : coerce "n" "-0032768" = .ok (.integer .int16 ⟨-32768, by decide⟩) := by rfl
  obtain ⟨back, -, canonical⟩ :=
    display_inverts_coercion.2 "n" "-0032768" _ (by decide) converted
  exact ⟨converted, back, (canonical .int16 rfl).1,
    fun plain => absurd ((canonical .int16 rfl).2 plain) (by decide)⟩

end Value

end BusBridge
