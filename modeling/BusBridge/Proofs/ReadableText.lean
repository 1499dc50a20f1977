import BusBridge.Text.RawText

/-!
# What the readable text keeps

A byte string that is not UTF-8 is shown with replacements.  Its ASCII characters are the
bytes of the same numbers all the same: no ASCII character is lost, and none appears where
there was no such byte.
-/

namespace BusBridge

namespace RawText

/-- An ASCII character other than NUL. -/
def IsPlain (character : Char) : Prop :=
  0 < character.toNat ∧ character.toNat < 0x80

instance (character : Char) : Decidable (IsPlain character) :=
  inferInstanceAs (Decidable (_ ∧ _))

/-- The byte of an ASCII character. -/
def byteOf (character : Char) : UInt8 :=
  character.toNat.toUInt8

section Characters

variable {character : Char} {lead low high : UInt8} {code read needed : Nat}
  {bytes rest : List UInt8}

theorem toNat_ofNat (code : Nat) :
    (Char.ofNat code).toNat = if code.isValidChar then code else 0 := by
  by_cases valid : code.isValidChar
  · rw [if_pos valid, Char.ofNat, dif_pos valid]
    rfl
  · rw [if_neg valid, Char.ofNat, dif_neg valid]
    rfl

theorem not_isPlain_ofNat (beyond : 0x80 ≤ code) : ¬ IsPlain (Char.ofNat code) := by
  rw [IsPlain, toNat_ofNat]
  split <;> omega

/-- A character of several bytes is no ASCII character. -/
theorem not_isPlain_of_continueChar
    (enough : 2 ≤ code ∨ (2 ≤ needed ∧ 2 ≤ code * 64 + (low.toNat - 0x80)))
    (found : (continueChar needed low high code read bytes).1 = some character) :
    ¬ IsPlain character := by
  induction bytes generalizing needed low high code read with
  | nil => cases found
  | cons byte rest ih =>
      rw [continueChar] at found
      split at found
      · next inside =>
          have above : low.toNat ≤ byte.toNat :=
            UInt8.le_iff_toNat_le.mp (of_decide_eq_true (Bool.and_eq_true_iff.mp inside).1)
          dsimp only at found
          split at found
          · next last =>
              obtain rfl := Option.some.inj found
              apply not_isPlain_ofNat
              omega
          · next more =>
              apply ih _ found
              left
              omega
      · cases found

/-- The first of several bytes decides which second byte may follow it, so that no character
takes more bytes than it needs. -/
theorem enough_of_continuation? : ∀ lead < 0x100, 0x80 ≤ lead →
    ∀ entry, continuation? (UInt8.ofNat lead) = some entry →
      let leading := if entry.1 == 1 then lead - 0xC0
        else if entry.1 == 2 then lead - 0xE0 else lead - 0xF0
      2 ≤ leading ∨ (2 ≤ entry.1 ∧ 2 ≤ leading * 64 + (entry.2.1.toNat - 0x80)) := by
  decide +kernel

theorem readChar_of_lt (ascii : lead < 0x80) (rest : List UInt8) :
    readChar lead rest = (some (Char.ofNat lead.toNat), 0) := by
  rw [readChar, if_pos ascii]

theorem not_isPlain_of_readChar (beyond : ¬ lead < 0x80)
    (found : (readChar lead rest).1 = some character) : ¬ IsPlain character := by
  have above : 0x80 ≤ lead.toNat := UInt8.le_iff_toNat_le.mp (UInt8.not_lt.mp beyond)
  rw [readChar, if_neg beyond] at found
  cases follows : continuation? lead with
  | none =>
      rw [follows] at found
      cases found
  | some entry =>
      obtain ⟨needed, low, high⟩ := entry
      have enough := enough_of_continuation? lead.toNat lead.toNat_lt above (needed, low, high)
        (by rw [UInt8.ofNat_toNat, follows])
      rw [follows] at found
      exact not_isPlain_of_continueChar enough found

theorem lossyChars_of_lt (ascii : lead < 0x80) (rest : List UInt8) :
    lossyChars (lead :: rest) = Char.ofNat lead.toNat :: lossyChars rest := by
  rw [lossyChars, readChar_of_lt ascii]
  rfl

theorem byteOf_ofNat (ascii : lead < 0x80) : byteOf (Char.ofNat lead.toNat) = lead := by
  have below : lead.toNat < 0x80 := UInt8.lt_iff_toNat_lt.mp ascii
  have valid : lead.toNat.isValidChar := .inl (by omega)
  rw [byteOf, toNat_ofNat, if_pos valid]
  exact UInt8.ofNat_toNat

/-- A text that starts with an ASCII character comes from bytes that start with its byte. -/
theorem lossyChars_eq_cons_iff {others : List Char} (plain : IsPlain character) :
    lossyChars bytes = character :: others ↔
      ∃ rest, bytes = byteOf character :: rest ∧ lossyChars rest = others := by
  have small : (byteOf character).toNat = character.toNat := by
    rw [byteOf, Nat.toUInt8_eq, UInt8.toNat_ofNat']
    have below := plain.2
    omega
  have ascii : byteOf character < 0x80 := UInt8.lt_iff_toNat_lt.mpr (small ▸ plain.2)
  constructor
  · intro starts
    cases bytes with
    | nil =>
        rw [lossyChars] at starts
        cases starts
    | cons lead rest =>
        by_cases first : lead < 0x80
        · rw [lossyChars_of_lt first, List.cons.injEq] at starts
          obtain ⟨rfl, further⟩ := starts
          exact ⟨rest, by rw [byteOf_ofNat first], further⟩
        · rcases shown : readChar lead rest with ⟨found?, read⟩
          rw [lossyChars, shown, List.cons.injEq] at starts
          obtain ⟨same, -⟩ := starts
          cases found? with
          | none =>
              obtain rfl : replacement = character := same
              exact absurd plain (by decide)
          | some other =>
              obtain rfl : other = character := same
              exact absurd plain (not_isPlain_of_readChar first (congrArg Prod.fst shown))
  · rintro ⟨rest, rfl, rfl⟩
    rw [lossyChars_of_lt ascii, small, Char.ofNat_toNat]

theorem lossyChars_eq_nil_iff : lossyChars bytes = [] ↔ bytes = [] := by
  cases bytes with
  | nil => simp [lossyChars]
  | cons lead rest => simp [lossyChars]

theorem lossyChars_eq_append_iff {characters others : List Char}
    (plain : ∀ character ∈ characters, IsPlain character) :
    lossyChars bytes = characters ++ others ↔
      ∃ rest, bytes = characters.map byteOf ++ rest ∧ lossyChars rest = others := by
  induction characters generalizing bytes with
  | nil => simp
  | cons character further ih =>
      obtain ⟨here, later⟩ := List.forall_mem_cons.mp plain
      rw [List.cons_append, lossyChars_eq_cons_iff here]
      simp only [ih later]
      constructor
      · rintro ⟨_, rfl, rest, rfl, shown⟩
        exact ⟨rest, rfl, shown⟩
      · rintro ⟨rest, rfl, shown⟩
        exact ⟨_, rfl, rest, rfl, shown⟩

end Characters

end RawText

end BusBridge
