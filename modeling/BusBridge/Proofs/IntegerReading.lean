import BusBridge.Scalar.Integer

/-!
# Decimals and how they are read

Which number a token denotes is said here without a range and without a scan: one or more
decimal digits, behind a sign or without one.  The scan of a token, which stops as soon as
the number leaves the range, finds exactly the numbers of the type.
-/

namespace BusBridge

namespace IntegerType

/-- A number of this magnitude on one side of zero. -/
def signed (negative : Bool) (magnitude : Nat) : Int :=
  if negative then -(magnitude : Int) else magnitude

/-- The characters are one or more decimal digits of the number, behind a sign or without one.
A minus sign belongs to signed types only.  The number may be too great for the type. -/
inductive Denotes (type : IntegerType) : List Char → Int → Prop
  | bare {digits : List Char} (some : digits ≠ [])
      (isDigit : ∀ character ∈ digits, character.isDigit = true) :
      Denotes type digits (Nat.ofDigitChars 10 digits 0)
  | plus {digits : List Char} (some : digits ≠ [])
      (isDigit : ∀ character ∈ digits, character.isDigit = true) :
      Denotes type ('+' :: digits) (Nat.ofDigitChars 10 digits 0)
  | minus {digits : List Char} (allowed : type.isSigned = true) (some : digits ≠ [])
      (isDigit : ∀ character ∈ digits, character.isDigit = true) :
      Denotes type ('-' :: digits) (-(Nat.ofDigitChars 10 digits 0 : Int))

section Decimals

variable {type : IntegerType} {negative : Bool} {digits : List Char} {number : type.Number}

theorem digit?_of_isDigit {character : Char} (isDigit : character.isDigit = true) :
    digit? character = some (character.toNat - '0'.toNat) := by
  rw [digit?, if_pos isDigit]

theorem le_ofDigitChars (digits : List Char) (start : Nat) :
    start ≤ Nat.ofDigitChars 10 digits start := by
  induction digits generalizing start with
  | nil => exact Nat.le_refl start
  | cons character rest ih =>
      rw [Nat.ofDigitChars_cons]
      have further := ih (10 * start + (character.toNat - '0'.toNat))
      omega

/-- What lies between zero and a number of the type is a number of the type. -/
theorem contains_signed_of_le {less more : Nat} (below : less ≤ more)
    (contained : type.Contains (signed negative more)) :
    type.Contains (signed negative less) := by
  have zero := type.contains_zero
  unfold Contains at contained zero ⊢
  cases negative <;> simp only [signed, if_true, Bool.false_eq_true, if_false] at contained ⊢ <;>
    omega

/-- What one more digit does to a number of the type. -/
theorem appendDigits_cons_of_isDigit {character : Char} {start : Nat}
    (starts : number.val = signed negative start) (isDigit : character.isDigit = true)
    (rest : List Char) :
    let longer := signed negative (10 * start + (character.toNat - '0'.toNat))
    type.appendDigits negative number (character :: rest) =
      if contained : type.Contains longer then type.appendDigits negative ⟨longer, contained⟩ rest
      else .error .outOfRange := by
  intro longer
  have appended : (number.val * 10 + if negative then
      -((character.toNat - '0'.toNat : Nat) : Int) else (character.toNat - '0'.toNat : Nat)) =
        longer := by
    rw [starts]
    cases negative <;> simp only [longer, signed, if_true, Bool.false_eq_true, if_false] <;> omega
  rw [appendDigits, digit?_of_isDigit isDigit]
  simp only [appended]

/-- Digits are read as the number that they denote if it lies in the range, and only then:
the number grows from digit to digit, so it never comes back into the range. -/
theorem appendDigits_eq_ok_iff {start : Nat} {denoted : type.Number}
    (starts : number.val = signed negative start) :
    type.appendDigits negative number digits = .ok denoted ↔
      (∀ character ∈ digits, character.isDigit = true) ∧
        denoted.val = signed negative (Nat.ofDigitChars 10 digits start) := by
  induction digits generalizing start number with
  | nil =>
      rw [appendDigits, Except.ok.injEq, Nat.ofDigitChars_nil, ← starts]
      constructor
      · rintro rfl
        exact ⟨List.forall_mem_nil _, rfl⟩
      · rintro ⟨-, same⟩
        exact Subtype.ext same.symm
  | cons character rest ih =>
      rw [List.forall_mem_cons, Nat.ofDigitChars_cons]
      by_cases isDigit : character.isDigit = true
      · let longer : Nat := 10 * start + (character.toNat - '0'.toNat)
        rw [appendDigits_cons_of_isDigit starts isDigit]
        by_cases contained : type.Contains (signed negative longer)
        · have further := @ih ⟨signed negative longer, contained⟩ longer rfl
          rw [dif_pos contained]
          simpa [isDigit, longer] using further
        · rw [dif_neg contained]
          refine iff_of_false nofun ?_
          rintro ⟨-, denotes⟩
          apply contained
          exact contains_signed_of_le (le_ofDigitChars rest longer) (denotes ▸ denoted.property)
      · rw [appendDigits, digit?, if_neg isDigit]
        exact iff_of_false nofun fun both => isDigit both.1.1

theorem readDigits_eq_ok_iff :
    type.readDigits negative digits = .ok number ↔
      digits ≠ [] ∧ (∀ character ∈ digits, character.isDigit = true) ∧
        number.val = signed negative (Nat.ofDigitChars 10 digits 0) := by
  have zero : (⟨0, type.contains_zero⟩ : type.Number).val = signed negative 0 := by
    cases negative <;> rfl
  rw [readDigits]
  cases digits with
  | nil => exact iff_of_false nofun fun both => both.1 rfl
  | cons character rest =>
      have some : character :: rest ≠ [] := List.cons_ne_nil _ _
      rw [List.isEmpty_eq_false_iff.mpr some, ← appendDigits_eq_ok_iff zero]
      exact (and_iff_right some).symm

section Signs

variable {value : Int}

theorem not_denotes_nil : ¬ type.Denotes [] value := by
  generalize none : ([] : List Char) = characters
  rintro (⟨some, -⟩ | _ | _)
  · exact some none.symm
  · cases none
  · cases none

theorem denotes_plus_iff :
    type.Denotes ('+' :: digits) value ↔
      digits ≠ [] ∧ (∀ character ∈ digits, character.isDigit = true) ∧
        value = signed false (Nat.ofDigitChars 10 digits 0) := by
  constructor
  · rintro (⟨-, isDigit⟩ | ⟨some, isDigit⟩ | _)
    · cases isDigit '+' List.mem_cons_self
    · exact ⟨some, isDigit, rfl⟩
  · rintro ⟨some, isDigit, rfl⟩
    exact .plus some isDigit

theorem denotes_minus_iff :
    type.Denotes ('-' :: digits) value ↔
      type.isSigned = true ∧ digits ≠ [] ∧
        (∀ character ∈ digits, character.isDigit = true) ∧
          value = signed true (Nat.ofDigitChars 10 digits 0) := by
  constructor
  · rintro (⟨-, isDigit⟩ | _ | ⟨allowed, some, isDigit⟩)
    · cases isDigit '-' List.mem_cons_self
    · exact ⟨allowed, some, isDigit, rfl⟩
  · rintro ⟨allowed, some, isDigit, rfl⟩
    exact .minus allowed some isDigit

theorem denotes_bare_iff (noPlus : digits.head? ≠ some '+') (noMinus : digits.head? ≠ some '-') :
    type.Denotes digits value ↔
      digits ≠ [] ∧ (∀ character ∈ digits, character.isDigit = true) ∧
        value = signed false (Nat.ofDigitChars 10 digits 0) := by
  constructor
  · rintro (⟨some, isDigit⟩ | _ | _)
    · exact ⟨some, isDigit, rfl⟩
    · exact absurd rfl noPlus
    · exact absurd rfl noMinus
  · rintro ⟨some, isDigit, rfl⟩
    exact .bare some isDigit

end Signs

/-- A token is read as the number that it denotes, if this is a number of the type. -/
theorem read_eq_ok_iff {token : String} :
    type.read token = .ok number ↔ type.Denotes token.toList number.val := by
  rw [read]
  split
  · next none => exact none ▸ iff_of_false nofun not_denotes_nil
  · next others start => rw [start, readDigits_eq_ok_iff, denotes_plus_iff]
  · next others start =>
      rw [start, denotes_minus_iff, ← readDigits_eq_ok_iff]
      split
      · next allowed => exact (and_iff_right allowed).symm
      · next refused => exact iff_of_false nofun fun both => refused both.1
  · next noPlus noMinus =>
      have bare (sign : Char) (others : ∀ rest, token.toList ≠ sign :: rest) :
          token.toList.head? ≠ some sign := by
        intro starts
        obtain ⟨rest, same⟩ := List.head?_eq_some_iff.mp starts
        exact others rest same
      rw [readDigits_eq_ok_iff, denotes_bare_iff (bare _ noPlus) (bare _ noMinus)]

theorem denotes_toDigits (type : IntegerType) (digits : Nat) :
    type.Denotes (Nat.toDigits 10 digits) digits := by
  have isDigit : ∀ character ∈ Nat.toDigits 10 digits, character.isDigit = true :=
    fun character member => Nat.isDigit_of_mem_toDigits (by decide) (by decide) member
  have denoted := @Denotes.bare type _ Nat.toDigits_ne_nil isDigit
  rwa [Nat.ofDigitChars_toDigits (by decide) (by decide)] at denoted

/-- A number of the type is read from its decimal digits. -/
theorem read_toString {type : IntegerType} (number : type.Number) (digits : Nat)
    (natural : number.val = digits) : type.read (toString digits) = .ok number := by
  have characters : (toString digits).toList = Nat.toDigits 10 digits := Nat.toList_repr
  rw [read_eq_ok_iff, characters, natural]
  exact type.denotes_toDigits digits

end Decimals

end IntegerType

end BusBridge
