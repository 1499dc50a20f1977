/-!
# Texts that may not be UTF-8

Command-line arguments and environment entries are byte strings.  A `RawText`
keeps the bytes; `decode?` reads them as UTF-8 if they are, and `lossy` always
gives a text, with U+FFFD in place of every ill-formed part.
-/

namespace BusBridge

/-- A byte string that is usually, but not always, UTF-8. -/
structure RawText where
  bytes : List UInt8
deriving DecidableEq, Repr, Inhabited

namespace RawText

/-- The UTF-8 bytes of a text. -/
def ofString (text : String) : RawText :=
  ⟨text.toUTF8.data.toList⟩

/-- The text whose UTF-8 bytes these are, if there is one. -/
def decode? (raw : RawText) : Option String :=
  String.fromUTF8? ⟨raw.bytes.toArray⟩

@[simp]
theorem decode?_ofString (text : String) : (ofString text).decode? = some text := by
  have bytes : (⟨text.toUTF8.data.toList.toArray⟩ : ByteArray) = text.toByteArray := by
    simp [String.toUTF8_eq_toByteArray]
  simp only [decode?, ofString, bytes, String.fromUTF8?]
  rw [dif_pos text.isValidUTF8]
  rfl

theorem bytes_append (first second : String) :
    (ofString (first ++ second)).bytes = (ofString first).bytes ++ (ofString second).bytes := by
  simp [ofString, String.toUTF8_eq_toByteArray]

theorem bytes_eq_flatMap (text : String) :
    (ofString text).bytes = text.toList.flatMap String.utf8EncodeChar := by
  simp [ofString, String.toUTF8_eq_toByteArray, ← String.utf8Encode_toList, List.utf8Encode]

theorem ofString_injective {first second : String} (same : ofString first = ofString second) :
    first = second := by
  have texts := congrArg decode? same
  rw [decode?_ofString, decode?_ofString] at texts
  exact Option.some.inj texts

theorem filterMap_decode?_ofString (texts : List String) :
    (texts.map ofString).filterMap decode? = texts := by
  induction texts with
  | nil => rfl
  | cons first rest ih => simp [ih]

/-- How an ill-formed part of a byte string is shown. -/
def replacement : Char :=
  '\uFFFD'

/-- The number of further bytes that a character starting with `lead` has, and
the least and the greatest value of the first of them. -/
def continuation? (lead : UInt8) : Option (Nat × UInt8 × UInt8) :=
  if 0xC2 ≤ lead && lead ≤ 0xDF then some (1, 0x80, 0xBF)
  else if lead == 0xE0 then some (2, 0xA0, 0xBF)
  else if lead == 0xED then some (2, 0x80, 0x9F)
  else if 0xE1 ≤ lead && lead ≤ 0xEF then some (2, 0x80, 0xBF)
  else if lead == 0xF0 then some (3, 0x90, 0xBF)
  else if 0xF1 ≤ lead && lead ≤ 0xF3 then some (3, 0x80, 0xBF)
  else if lead == 0xF4 then some (3, 0x80, 0x8F)
  else none

/-- Read `needed` more continuation bytes, the first of them between `low` and
`high`.  The result is the character, or `none` where a byte does not fit, and
the number of bytes read. -/
def continueChar (needed : Nat) (low high : UInt8) (code read : Nat) :
    List UInt8 → Option Char × Nat
  | [] => (none, read)
  | byte :: rest =>
    if low ≤ byte && byte ≤ high then
      let code := code * 64 + (byte.toNat - 0x80)
      if needed ≤ 1 then (some (Char.ofNat code), read + 1)
      else continueChar (needed - 1) 0x80 0xBF code (read + 1) rest
    else (none, read)

/-- The character that starts with the byte `lead` and goes on in `rest`, and how
many bytes of `rest` belong to it.  Where the bytes are ill-formed there is no
character, and the count tells how much of them is ill-formed together. -/
def readChar (lead : UInt8) (rest : List UInt8) : Option Char × Nat :=
  if lead < 0x80 then (some (Char.ofNat lead.toNat), 0)
  else match continuation? lead with
    | none => (none, 0)
    | some (needed, low, high) =>
      let leading := if needed == 1 then lead.toNat - 0xC0
        else if needed == 2 then lead.toNat - 0xE0 else lead.toNat - 0xF0
      continueChar needed low high leading 0 rest

/-- The characters of a byte string, with a replacement for every ill-formed part. -/
def lossyChars : List UInt8 → List Char
  | [] => []
  | lead :: rest =>
    let (character, read) := readChar lead rest
    character.getD replacement :: lossyChars (rest.drop read)
termination_by bytes => bytes.length
decreasing_by simp only [List.length_drop, List.length_cons]; omega

/-- A text for any byte string, with a replacement for every ill-formed part. -/
def lossy (raw : RawText) : String :=
  String.ofList (lossyChars raw.bytes)

/-- The longest well-formed beginning of a byte string, and the bytes after it. -/
def splitWellFormed : List UInt8 → List Char × List UInt8
  | [] => ([], [])
  | lead :: rest =>
    match readChar lead rest with
    | (none, _) => ([], lead :: rest)
    | (some character, read) =>
      let (characters, remaining) := splitWellFormed (rest.drop read)
      (character :: characters, remaining)
termination_by bytes => bytes.length
decreasing_by simp only [List.length_drop, List.length_cons]; omega

/-- The bytes before the first `=`, and those after it if there is one. -/
def splitAtEquals : List UInt8 → List UInt8 × Option (List UInt8)
  | [] => ([], none)
  | byte :: rest =>
    if byte == 0x3D then ([], some rest)
    else
      let (before, after) := splitAtEquals rest
      (byte :: before, after)

theorem splitAtEquals_of_not_mem {bytes : List UInt8} (plain : 0x3D ∉ bytes) :
    splitAtEquals bytes = (bytes, none) := by
  induction bytes with
  | nil => rfl
  | cons byte rest ih =>
      have different : (byte == 0x3D) = false :=
        beq_eq_false_iff_ne.mpr fun same => plain (by simp [same])
      rw [splitAtEquals, different, ih fun member => plain (List.mem_cons_of_mem _ member)]
      rfl

theorem splitAtEquals_append {name : List UInt8} (plain : 0x3D ∉ name) (value : List UInt8) :
    splitAtEquals (name ++ 0x3D :: value) = (name, some value) := by
  induction name with
  | nil => rfl
  | cons byte rest ih =>
      have different : (byte == 0x3D) = false :=
        beq_eq_false_iff_ne.mpr fun same => plain (by simp [same])
      rw [List.cons_append, splitAtEquals, different,
        ih fun member => plain (List.mem_cons_of_mem _ member)]
      rfl

/-- The bytes can be put together again. -/
theorem append_splitAtEquals (bytes : List UInt8) :
    (splitAtEquals bytes).1 ++ ((splitAtEquals bytes).2.map (0x3D :: ·)).getD [] = bytes := by
  induction bytes with
  | nil => rfl
  | cons byte rest ih =>
      rw [splitAtEquals]
      split
      · next same => simp [eq_of_beq same]
      · simpa using ih

end RawText

end BusBridge
