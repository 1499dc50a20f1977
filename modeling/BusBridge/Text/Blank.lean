/-!
# Blank characters

The characters with the Unicode property `White_Space`, and the removal of
blanks from both ends of a text.
-/

namespace BusBridge

namespace Text

/-- The Unicode property `White_Space`. -/
def isBlank (character : Char) : Bool :=
  let code := character.toNat
  (0x09 ≤ code && code ≤ 0x0D) || code == 0x20 || code == 0x85 || code == 0xA0 ||
    code == 0x1680 || (0x2000 ≤ code && code ≤ 0x200A) || code == 0x2028 ||
    code == 0x2029 || code == 0x202F || code == 0x205F || code == 0x3000

def trimChars (characters : List Char) : List Char :=
  ((characters.dropWhile isBlank).reverse.dropWhile isBlank).reverse

/-- Drop the blanks at both ends of a text. -/
def trim (text : String) : String :=
  String.ofList (trimChars text.toList)

/-- There are only blanks in the text, or nothing at all. -/
def IsBlank (text : String) : Prop :=
  ∀ character ∈ text.toList, isBlank character = true

/-- The text is not empty, and no blank stands at either of its ends. -/
structure IsTrimmed (text : String) : Prop where
  ne_empty : text.toList ≠ []
  head_not_blank : ∀ first, text.toList.head? = some first → isBlank first = false
  last_not_blank : ∀ last, text.toList.getLast? = some last → isBlank last = false

theorem dropWhile_isBlank_of_head? {characters : List Char}
    (starts : ∀ first, characters.head? = some first → isBlank first = false) :
    characters.dropWhile isBlank = characters := by
  cases characters with
  | nil => rfl
  | cons first rest => rw [List.dropWhile_cons, starts first rfl, if_neg Bool.false_ne_true]

theorem trim_of_isTrimmed {text : String} (trimmed : IsTrimmed text) : trim text = text := by
  have ends : ∀ last, text.toList.reverse.head? = some last → isBlank last = false := by
    intro last here
    rw [List.head?_reverse] at here
    exact trimmed.last_not_blank last here
  rw [trim, trimChars, dropWhile_isBlank_of_head? trimmed.head_not_blank,
    dropWhile_isBlank_of_head? ends, List.reverse_reverse, String.ofList_toList]

theorem dropWhile_isBlank_of_all {characters : List Char}
    (blank : ∀ character ∈ characters, isBlank character = true) :
    characters.dropWhile isBlank = [] := by
  induction characters with
  | nil => rfl
  | cons first rest ih =>
      obtain ⟨here, later⟩ := List.forall_mem_cons.mp blank
      rw [List.dropWhile_cons, if_pos here, ih later]

theorem trim_of_isBlank {text : String} (blank : IsBlank text) : trim text = "" := by
  rw [trim, trimChars, dropWhile_isBlank_of_all blank]
  rfl

/-- Two texts are the same up to the case of ASCII letters. -/
def equalIgnoringCase (first second : String) : Bool :=
  first.toList.map Char.toLower == second.toList.map Char.toLower

theorem equalIgnoringCase_refl (text : String) : equalIgnoringCase text text = true :=
  beq_self_eq_true _

/-- Two words that have a spelling in common are the same up to the case of their letters. -/
theorem equalIgnoringCase_of_common {first second text : String}
    (one : equalIgnoringCase first text = true) (other : equalIgnoringCase second text = true) :
    equalIgnoringCase first second = true := by
  rw [equalIgnoringCase, beq_iff_eq] at one other ⊢
  exact one.trans other.symm

end Text

end BusBridge
