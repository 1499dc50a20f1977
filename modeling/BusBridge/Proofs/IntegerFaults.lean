import BusBridge.Proofs.IntegerTokens

/-!
# Why a token is no integer

A token is read from the left, and the first problem on the way is the one that is reported.
It is told here from the token alone: some decimal at its beginning is out of the range, or the
digits stop in a place where there should be one.
-/

namespace BusBridge

namespace IntegerType

/-- Some decimal at the beginning of the characters denotes a number out of the range. -/
def Overflows (type : IntegerType) (characters : List Char) : Prop :=
  ∃ decimal number, decimal <+: characters ∧ type.Denotes decimal number ∧ ¬ type.Contains number

/-- What may stand in front of digits, and whether it makes the number negative. -/
inductive Sign (type : IntegerType) : List Char → Bool → Prop
  | none : Sign type [] false
  | plus : Sign type ['+'] false
  | minus (allowed : type.isSigned = true) : Sign type ['-'] true

/-- There is no sign at the beginning of the digits, unless one was there already. -/
def SignEnds (sign digits : List Char) : Prop :=
  sign = [] → digits.head? ≠ some '+' ∧ digits.head? ≠ some '-'

/-- All is well up to a place where a digit is missing: at the end, behind a lone sign, or where
there is another character. -/
inductive Stalls (type : IntegerType) : List Char → Prop
  | lone {sign : List Char} {negative : Bool} (signed : type.Sign sign negative)
      (some : sign ≠ []) : Stalls type sign
  | unsigned (refused : type.isSigned = false) (rest : List Char) : Stalls type ('-' :: rest)
  | foreign {sign seen rest : List Char} {negative : Bool} {bad : Char}
      (signed : type.Sign sign negative) (ends : SignEnds sign (seen ++ bad :: rest))
      (isDigit : ∀ character ∈ seen, character.isDigit = true)
      (inRange : type.Contains (IntegerType.signed negative (Nat.ofDigitChars 10 seen 0)))
      (noDigit : bad.isDigit = false) : Stalls type (sign ++ (seen ++ bad :: rest))

section Digits

variable {type : IntegerType} {negative : Bool} {digits : List Char} {number : type.Number}
  {start : Nat}

theorem appendDigits_ne_empty :
    type.appendDigits negative number digits ≠ .error .empty := by
  induction digits generalizing number with
  | nil => simp [appendDigits]
  | cons character rest ih =>
      rw [appendDigits]
      cases digit? character with
      | none => simp
      | some digit =>
          dsimp only
          generalize number.val * 10 + (if negative then -(digit : Int) else digit) = longer
          split
          · exact ih
          · simp

/-- Appending digits fails at the first of them that takes the number out of the range, if all
before it were digits. -/
theorem appendDigits_eq_outOfRange_iff (starts : number.val = signed negative start) :
    type.appendDigits negative number digits = .error .outOfRange ↔
      ∃ seen, seen <+: digits ∧ (∀ character ∈ seen, character.isDigit = true) ∧
        ¬ type.Contains (signed negative (Nat.ofDigitChars 10 seen start)) := by
  have inside : type.Contains (signed negative start) := starts ▸ number.property
  induction digits generalizing start number with
  | nil =>
      refine iff_of_false (by simp [appendDigits]) ?_
      rintro ⟨seen, within, -, outside⟩
      rw [List.prefix_nil.mp within, Nat.ofDigitChars_nil] at outside
      exact outside inside
  | cons character rest ih =>
      simp only [List.prefix_cons_iff]
      by_cases isDigit : character.isDigit = true
      · rw [appendDigits_cons_of_isDigit starts isDigit]
        let longer : Nat := 10 * start + (character.toNat - '0'.toNat)
        by_cases contained : type.Contains (signed negative longer)
        · have further := @ih ⟨signed negative longer, contained⟩ longer rfl contained
          rw [dif_pos contained]
          refine further.trans ?_
          constructor
          · rintro ⟨seen, within, digits, outside⟩
            exact ⟨character :: seen, .inr ⟨seen, rfl, within⟩,
              List.forall_mem_cons.mpr ⟨isDigit, digits⟩, outside⟩
          · rintro ⟨_, rfl | ⟨seen, rfl, within⟩, digits, outside⟩
            · exact absurd inside outside
            · exact ⟨seen, within, (List.forall_mem_cons.mp digits).2, outside⟩
        · rw [dif_neg contained]
          refine iff_of_true rfl ⟨[character], .inr ⟨[], rfl, List.nil_prefix⟩, ?_, contained⟩
          exact List.forall_mem_singleton.mpr isDigit
      · rw [appendDigits, digit?, if_neg isDigit]
        refine iff_of_false (by simp) ?_
        rintro ⟨_, rfl | ⟨seen, rfl, -⟩, digits, outside⟩
        · exact outside inside
        · exact isDigit (List.forall_mem_cons.mp digits).1

/-- Appending digits fails at the first character that is none, if the number is in the range
up to there. -/
theorem appendDigits_eq_invalidDigit_iff (starts : number.val = signed negative start) :
    type.appendDigits negative number digits = .error .invalidDigit ↔
      ∃ seen bad rest, digits = seen ++ bad :: rest ∧
        (∀ character ∈ seen, character.isDigit = true) ∧ bad.isDigit = false ∧
          type.Contains (signed negative (Nat.ofDigitChars 10 seen start)) := by
  induction digits generalizing start number with
  | nil => exact iff_of_false nofun (by simp)
  | cons character rest ih =>
      by_cases isDigit : character.isDigit = true
      · rw [appendDigits_cons_of_isDigit starts isDigit]
        let longer : Nat := 10 * start + (character.toNat - '0'.toNat)
        -- The digit is the first of those that were seen.
        have split (seen : List Char) (bad : Char) (others : List Char) :
            character :: rest = seen ++ bad :: others ∧ bad.isDigit = false →
              ∃ further, seen = character :: further ∧ rest = further ++ bad :: others := by
          rintro ⟨whole, noDigit⟩
          cases seen with
          | nil =>
              obtain ⟨rfl, -⟩ := List.cons.inj whole
              rw [isDigit] at noDigit
              cases noDigit
          | cons first further =>
              obtain ⟨rfl, same⟩ := List.cons.inj whole
              exact ⟨further, rfl, same⟩
        by_cases contained : type.Contains (signed negative longer)
        · have further := @ih ⟨signed negative longer, contained⟩ longer rfl
          rw [dif_pos contained]
          refine further.trans ?_
          constructor
          · rintro ⟨seen, bad, others, rfl, digits, noDigit, inRange⟩
            exact ⟨character :: seen, bad, others, rfl,
              List.forall_mem_cons.mpr ⟨isDigit, digits⟩, noDigit, inRange⟩
          · rintro ⟨_, bad, others, whole, digits, noDigit, inRange⟩
            obtain ⟨seen, rfl, rfl⟩ := split _ bad others ⟨whole, noDigit⟩
            exact ⟨seen, bad, others, rfl, (List.forall_mem_cons.mp digits).2, noDigit, inRange⟩
        · rw [dif_neg contained]
          refine iff_of_false nofun ?_
          rintro ⟨_, bad, others, whole, digits, noDigit, inRange⟩
          obtain ⟨seen, rfl, rfl⟩ := split _ bad others ⟨whole, noDigit⟩
          exact contained (contains_signed_of_le (le_ofDigitChars seen longer) inRange)
      · rw [appendDigits, digit?, if_neg isDigit]
        refine iff_of_true rfl ⟨[], character, rest, rfl, List.forall_mem_nil _,
          Bool.eq_false_iff.mpr isDigit, ?_⟩
        exact starts ▸ number.property

theorem signed_zero : (⟨0, type.contains_zero⟩ : type.Number).val = signed negative 0 := by
  cases negative <;> rfl

theorem readDigits_cons (character : Char) (rest : List Char) :
    type.readDigits negative (character :: rest) =
      type.appendDigits negative ⟨0, type.contains_zero⟩ (character :: rest) :=
  rfl

theorem readDigits_ne_empty : type.readDigits negative digits ≠ .error .empty := by
  cases digits with
  | nil => exact nofun
  | cons character rest => exact appendDigits_ne_empty

theorem readDigits_eq_outOfRange_iff :
    type.readDigits negative digits = .error .outOfRange ↔
      ∃ seen, seen <+: digits ∧ (∀ character ∈ seen, character.isDigit = true) ∧
        ¬ type.Contains (signed negative (Nat.ofDigitChars 10 seen 0)) := by
  rw [← appendDigits_eq_outOfRange_iff signed_zero]
  cases digits with
  | nil => exact iff_of_false nofun nofun
  | cons character rest => rw [readDigits_cons]

theorem readDigits_eq_invalidDigit_iff :
    type.readDigits negative digits = .error .invalidDigit ↔
      digits = [] ∨ ∃ seen bad rest, digits = seen ++ bad :: rest ∧
        (∀ character ∈ seen, character.isDigit = true) ∧ bad.isDigit = false ∧
          type.Contains (signed negative (Nat.ofDigitChars 10 seen 0)) := by
  rw [← appendDigits_eq_invalidDigit_iff signed_zero]
  cases digits with
  | nil => exact iff_of_true rfl (.inl rfl)
  | cons character rest =>
      rw [readDigits_cons]
      exact (or_iff_right (List.cons_ne_nil _ _)).symm

end Digits

section Signs

variable {type : IntegerType} {token : String} {sign digits : List Char} {negative : Bool}

/-- A token is empty, or it has a sign that the type has not, or it has a sign, or none, and then
the rest of it. -/
theorem exists_sign (type : IntegerType) (token : String) :
    token.toList = [] ∨
      (type.isSigned = false ∧ ∃ rest, token.toList = '-' :: rest) ∨
      token.toList ≠ [] ∧ ∃ sign negative digits, type.Sign sign negative ∧
        SignEnds sign digits ∧ token.toList = sign ++ digits := by
  cases characters : token.toList with
  | nil => exact .inl rfl
  | cons first rest =>
      right
      by_cases plus : first = '+'
      · subst plus
        exact .inr ⟨nofun, ['+'], false, rest, .plus, nofun, rfl⟩
      by_cases minus : first = '-'
      · subst minus
        cases signed : type.isSigned with
        | false => exact .inl ⟨rfl, rest, rfl⟩
        | true => exact .inr ⟨nofun, ['-'], true, rest, .minus signed, nofun, rfl⟩
      · refine .inr ⟨nofun, [], false, first :: rest, .none, fun _ => ?_, rfl⟩
        simp [plus, minus]

theorem read_of_sign (signed : type.Sign sign negative) (ends : SignEnds sign digits)
    (characters : token.toList = sign ++ digits) (some : token.toList ≠ []) :
    type.read token = type.readDigits negative digits := by
  rw [read]
  cases signed with
  | none =>
      rw [List.nil_append] at characters
      obtain ⟨noPlus, noMinus⟩ := ends rfl
      rw [characters] at some ⊢
      split
      · exact absurd rfl some
      · exact absurd rfl noPlus
      · exact absurd rfl noMinus
      · rfl
  | plus => rw [characters]; rfl
  | minus allowed =>
      rw [characters]
      exact if_pos allowed

theorem read_of_refused_minus {rest : List Char} (refused : type.isSigned = false)
    (characters : token.toList = '-' :: rest) :
    type.read token = .error .invalidDigit := by
  rw [read, characters]
  exact if_neg (Bool.eq_false_iff.mp refused)

/-- Behind a sign, only the digits decide whether the range is left. -/
theorem overflows_iff (signed : type.Sign sign negative) (ends : SignEnds sign digits) :
    type.Overflows (sign ++ digits) ↔
      ∃ seen, seen <+: digits ∧ (∀ character ∈ seen, character.isDigit = true) ∧
        ¬ type.Contains (IntegerType.signed negative (Nat.ofDigitChars 10 seen 0)) := by
  have zero : type.Contains (IntegerType.signed negative 0) := by
    cases negative <;> exact type.contains_zero
  have some {seen : List Char}
      (outside : ¬ type.Contains (IntegerType.signed negative (Nat.ofDigitChars 10 seen 0))) :
      seen ≠ [] := by
    rintro rfl
    exact outside zero
  cases signed with
  | none =>
      obtain ⟨noPlus, noMinus⟩ := ends rfl
      constructor
      · rintro ⟨decimal, number, within, denotes, outside⟩
        have noSign (sign : Char) (other : digits.head? ≠ .some sign) :
            decimal.head? ≠ .some sign := by
          intro starts
          obtain ⟨rest, rfl⟩ := List.head?_eq_some_iff.mp starts
          obtain ⟨further, rfl⟩ := within
          exact other rfl
        rw [denotes_bare_iff (noSign _ noPlus) (noSign _ noMinus)] at denotes
        obtain ⟨-, isDigit, rfl⟩ := denotes
        exact ⟨decimal, within, isDigit, outside⟩
      · rintro ⟨seen, within, isDigit, outside⟩
        exact ⟨seen, _, within, .bare (some outside) isDigit, outside⟩
  | plus =>
      constructor
      · rintro ⟨_, number, within, denotes, outside⟩
        rcases List.prefix_cons_iff.mp within with rfl | ⟨seen, rfl, further⟩
        · exact absurd denotes not_denotes_nil
        · obtain ⟨-, isDigit, rfl⟩ := denotes_plus_iff.mp denotes
          exact ⟨seen, further, isDigit, outside⟩
      · rintro ⟨seen, within, isDigit, outside⟩
        exact ⟨'+' :: seen, _, List.cons_prefix_cons.mpr ⟨rfl, within⟩,
          .plus (some outside) isDigit, outside⟩
  | minus allowed =>
      constructor
      · rintro ⟨_, number, within, denotes, outside⟩
        rcases List.prefix_cons_iff.mp within with rfl | ⟨seen, rfl, further⟩
        · exact absurd denotes not_denotes_nil
        · obtain ⟨-, -, isDigit, rfl⟩ := denotes_minus_iff.mp denotes
          exact ⟨seen, further, isDigit, outside⟩
      · rintro ⟨seen, within, isDigit, outside⟩
        exact ⟨'-' :: seen, _, List.cons_prefix_cons.mpr ⟨rfl, within⟩,
          .minus allowed (some outside) isDigit, outside⟩

theorem not_overflows_of_refused_minus {rest : List Char} (refused : type.isSigned = false) :
    ¬ type.Overflows ('-' :: rest) := by
  rintro ⟨_, number, within, denotes, -⟩
  rcases List.prefix_cons_iff.mp within with rfl | ⟨seen, rfl, -⟩
  · exact not_denotes_nil denotes
  · have allowed := (denotes_minus_iff.mp denotes).1
    rw [refused] at allowed
    cases allowed

end Signs

section Faults

variable {type : IntegerType} {token : String}

theorem read_eq_empty_iff : type.read token = .error .empty ↔ token.toList = [] := by
  rcases type.exists_sign token with none | ⟨refused, rest, characters⟩ |
    ⟨some, sign, negative, digits, signed, ends, characters⟩
  · refine iff_of_true ?_ none
    rw [read, none]
  · rw [read_of_refused_minus refused characters, characters]
    exact iff_of_false (by simp) (List.cons_ne_nil _ _)
  · rw [read_of_sign signed ends characters some]
    exact iff_of_false readDigits_ne_empty some

theorem read_eq_outOfRange_iff :
    type.read token = .error .outOfRange ↔ type.Overflows token.toList := by
  rcases type.exists_sign token with none | ⟨refused, rest, characters⟩ |
    ⟨some, sign, negative, digits, signed, ends, characters⟩
  · rw [read_eq_empty_iff.mpr none, none]
    refine iff_of_false nofun ?_
    rintro ⟨decimal, number, within, denotes, -⟩
    rw [List.prefix_nil.mp within] at denotes
    exact not_denotes_nil denotes
  · rw [read_of_refused_minus refused characters, characters]
    exact iff_of_false nofun (not_overflows_of_refused_minus refused)
  · rw [read_of_sign signed ends characters some, characters, overflows_iff signed ends,
      readDigits_eq_outOfRange_iff]

theorem read_eq_invalidDigit_iff :
    type.read token = .error .invalidDigit ↔ type.Stalls token.toList := by
  constructor
  · intro failed
    rcases type.exists_sign token with none | ⟨refused, rest, characters⟩ |
      ⟨some, sign, negative, digits, signed, ends, characters⟩
    · rw [read_eq_empty_iff.mpr none] at failed
      cases failed
    · rw [characters]
      exact .unsigned refused rest
    · rw [read_of_sign signed ends characters some, readDigits_eq_invalidDigit_iff] at failed
      rw [characters] at some ⊢
      rcases failed with rfl | ⟨seen, bad, rest, rfl, isDigit, noDigit, inRange⟩
      · rw [List.append_nil] at some ⊢
        exact .lone signed some
      · exact .foreign signed ends isDigit inRange noDigit
  · intro stalls
    generalize characters : token.toList = whole at stalls
    cases stalls with
    | lone signed some =>
        have ends : SignEnds whole [] := fun none => absurd none some
        rw [read_of_sign signed ends (by rw [characters, List.append_nil]) (characters ▸ some),
          readDigits_eq_invalidDigit_iff]
        exact .inl rfl
    | unsigned refused rest => exact read_of_refused_minus refused characters
    | foreign signed ends isDigit inRange noDigit =>
        have some : token.toList ≠ [] := by simp [characters]
        rw [read_of_sign signed ends characters some, readDigits_eq_invalidDigit_iff]
        exact .inr ⟨_, _, _, rfl, isDigit, noDigit, inRange⟩

end Faults

end IntegerType

namespace IntegerFault

theorem reason_eq_iff (fault : IntegerFault) :
    ((CoercionFault.integer fault).reason = "cannot parse integer from empty string" ↔
        fault = .empty) ∧
      ((CoercionFault.integer fault).reason = "out of range" ↔ fault = .outOfRange) ∧
      ((CoercionFault.integer fault).reason = "invalid digit found in string" ↔
        fault = .invalidDigit) := by
  cases fault <;> simp [CoercionFault.reason]

end IntegerFault

namespace Value

theorem coerce_integer_eq_error {type : IntegerType} {token : String} {failure : CoercionError}
    (rejected : coerce (String.singleton type.tag) token = .error failure) :
    ∃ fault, type.read token = .error fault ∧
      failure = .invalidArgument token (.integer type) (.integer fault) := by
  rcases coerce_eq_error_iff.mp rejected with ⟨-, unknown⟩ | ⟨other, fault, spelled, failed, rfl⟩
  · exact absurd rfl (unknown (.integer type))
  · obtain rfl : ScalarType.integer type = other :=
      ScalarType.tag_injective (String.singleton_inj.mp spelled)
    rw [read] at failed
    cases denoted : type.read token with
    | ok number => simp [denoted] at failed
    | error reason => exact ⟨reason, rfl, by simpa [denoted, eq_comm] using failed⟩

/-- A token that is rejected for an integer type is reported with the first problem from the
left.  It is empty exactly if the token is.  It is the range exactly if some decimal at the
beginning of the token, behind a sign of the type or without one, is a number out of the range.
In all other cases a digit is missing, which is where the decimal stalls within the range: behind
a lone sign, at a minus sign that the type has not, or at another character. -/
theorem rejected_integers_tell_first_problem (type : IntegerType) (token : String)
    {failure : CoercionError}
    (rejected : coerce (String.singleton type.tag) token = .error failure) :
    ∃ fault : CoercionFault, failure = .invalidArgument token (.integer type) fault ∧
      (fault.reason = "cannot parse integer from empty string" ↔ token = "") ∧
      (fault.reason = "out of range" ↔ type.Overflows token.toList) ∧
      (fault.reason = "invalid digit found in string" ↔
        token ≠ "" ∧ ¬ type.Overflows token.toList) ∧
      (fault.reason = "invalid digit found in string" ↔ type.Stalls token.toList) := by
  obtain ⟨fault, failed, rfl⟩ := coerce_integer_eq_error rejected
  obtain ⟨empty, outOfRange, invalidDigit⟩ := fault.reason_eq_iff
  have reads (other : IntegerFault) : fault = other ↔ type.read token = .error other := by
    rw [failed, Except.error.injEq]
  rw [reads, IntegerType.read_eq_empty_iff, String.toList_eq_nil_iff] at empty
  rw [reads, IntegerType.read_eq_outOfRange_iff] at outOfRange
  refine ⟨.integer fault, rfl, empty, outOfRange, ?_, ?_⟩
  · rw [invalidDigit, ne_eq, ← empty, ← outOfRange]
    cases fault <;> simp [CoercionFault.reason]
  · rw [invalidDigit, reads, IntegerType.read_eq_invalidDigit_iff]

/-- The range of a byte is left before the letter is met, or would be by the digit behind it. -/
theorem letter_behind_three_or_two_digits :
    (coerce "y" "999x" = .error (.invalidArgument "999x" (.integer .byte) (.integer .outOfRange)) ∧
        IntegerType.byte.Overflows "999x".toList) ∧
      coerce "y" "30x" = .error (.invalidArgument "30x" (.integer .byte)
        (.integer .invalidDigit)) ∧
      IntegerType.byte.Stalls "30x".toList := by
  have early : coerce "y" "999x" = .error (.invalidArgument "999x" (.integer .byte)
      (.integer .outOfRange)) := by rfl
  have late : coerce "y" "30x" = .error (.invalidArgument "30x" (.integer .byte)
      (.integer .invalidDigit)) := by rfl
  obtain ⟨_, range, -, overflows, -⟩ := rejected_integers_tell_first_problem .byte "999x" early
  obtain ⟨_, digit, -, -, -, stalls⟩ := rejected_integers_tell_first_problem .byte "30x" late
  obtain ⟨-, -, rfl⟩ := CoercionError.invalidArgument.inj range
  obtain ⟨-, -, rfl⟩ := CoercionError.invalidArgument.inj digit
  exact ⟨⟨early, overflows.mp rfl⟩, late, stalls.mp rfl⟩

end Value

end BusBridge
