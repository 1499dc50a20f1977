import BusBridge.Run.Course

/-!
# The configuration flags of a command line

The words before the command fall into groups: a configuration flag with its value, in one
word or in two.  The split takes exactly the groups at the beginning, so that nothing but
flags and their values is handed on to the loading of the settings.
-/

namespace BusBridge

namespace CommandLine

/-- These words are configuration flags with their values.  Only at the end a flag may stand
without its value. -/
inductive FlagGroups : List RawText → Prop
  | nil : FlagGroups []
  | joined {flag : String} {words : List RawText} (known : flag ∈ configFlags)
      (value : List UInt8) (further : FlagGroups words) :
      FlagGroups (⟨(RawText.ofString flag).bytes ++ 0x3D :: value⟩ :: words)
  | separate {flag : String} {words : List RawText} (known : flag ∈ configFlags)
      (value : RawText) (further : FlagGroups words) :
      FlagGroups (.ofString flag :: value :: words)
  | unfinished {flag : String} (known : flag ∈ configFlags) : FlagGroups [.ofString flag]

/-- A group begins with this word. -/
def BeginsGroup (word : RawText) : Prop :=
  ∃ flag ∈ configFlags, word = .ofString flag ∨
    ∃ value, word = ⟨(RawText.ofString flag).bytes ++ 0x3D :: value⟩

theorem equals_not_mem_flag {flag : String} (known : flag ∈ configFlags) :
    0x3D ∉ (RawText.ofString flag).bytes := by
  have plain : ∀ flag ∈ configFlags, 0x3D ∉ (RawText.ofString flag).bytes := by
    decide +kernel
  exact plain flag known

section Shapes

variable {flag : String} {word : RawText} {words : List RawText}

theorem any_configFlags (known : flag ∈ configFlags) :
    configFlags.any (fun other => RawText.ofString other = ⟨(RawText.ofString flag).bytes⟩) =
      true :=
  List.any_eq_true.mpr ⟨flag, known, by simp⟩

theorem flagShape_ofString (known : flag ∈ configFlags) :
    flagShape (.ofString flag) = .needsValue := by
  rw [flagShape, RawText.splitAtEquals_of_not_mem (equals_not_mem_flag known)]
  dsimp only
  rw [if_pos (any_configFlags known)]
  rfl

theorem flagShape_joined (known : flag ∈ configFlags) (value : List UInt8) :
    flagShape ⟨(RawText.ofString flag).bytes ++ 0x3D :: value⟩ = .complete := by
  rw [flagShape, RawText.splitAtEquals_append (equals_not_mem_flag known)]
  dsimp only
  rw [if_pos (any_configFlags known)]
  rfl

/-- The shape of a word tells how its group begins, or that there is none. -/
theorem flagShape_cases (word : RawText) :
    (flagShape word = .none ∧ ¬ BeginsGroup word) ∨
      (flagShape word = .complete ∧ ∃ flag ∈ configFlags, ∃ value,
        word = ⟨(RawText.ofString flag).bytes ++ 0x3D :: value⟩) ∨
      (flagShape word = .needsValue ∧ ∃ flag ∈ configFlags, word = .ofString flag) := by
  cases listed : configFlags.any
      fun flag => RawText.ofString flag = ⟨(RawText.splitAtEquals word.bytes).1⟩ with
  | false =>
      have shape : flagShape word = .none := by
        rw [flagShape]
        exact if_neg (listed ▸ Bool.false_ne_true)
      refine .inl ⟨shape, ?_⟩
      rintro ⟨flag, known, rfl | ⟨value, rfl⟩⟩
      · cases (flagShape_ofString known).symm.trans shape
      · cases (flagShape_joined known value).symm.trans shape
  | true =>
      obtain ⟨flag, known, same⟩ := List.any_eq_true.mp listed
      have name : (RawText.splitAtEquals word.bytes).1 = (RawText.ofString flag).bytes :=
        congrArg RawText.bytes (of_decide_eq_true same).symm
      have whole := RawText.append_splitAtEquals word.bytes
      rw [name] at whole
      cases after : (RawText.splitAtEquals word.bytes).2 with
      | none =>
          rw [after] at whole
          obtain rfl : word = .ofString flag :=
            congrArg RawText.mk (whole.symm.trans (List.append_nil _))
          exact .inr (.inr ⟨flagShape_ofString known, flag, known, rfl⟩)
      | some value =>
          rw [after] at whole
          obtain rfl : word = ⟨(RawText.ofString flag).bytes ++ 0x3D :: value⟩ :=
            congrArg RawText.mk whole.symm
          exact .inr (.inl ⟨flagShape_joined known value, flag, known, value, rfl⟩)

theorem not_beginsGroup (shape : flagShape word = .none) : ¬ BeginsGroup word := by
  rcases flagShape_cases word with ⟨-, plain⟩ | ⟨other, -⟩ | ⟨other, -⟩
  · exact plain
  · cases shape.symm.trans other
  · cases shape.symm.trans other

theorem exists_joined (shape : flagShape word = .complete) :
    ∃ flag ∈ configFlags, ∃ value,
      word = ⟨(RawText.ofString flag).bytes ++ 0x3D :: value⟩ := by
  rcases flagShape_cases word with ⟨other, -⟩ | ⟨-, named⟩ | ⟨other, -⟩
  · cases shape.symm.trans other
  · exact named
  · cases shape.symm.trans other

theorem FlagGroups.of_complete (shape : flagShape word = .complete)
    (further : FlagGroups words) : FlagGroups (word :: words) := by
  obtain ⟨flag, known, value, rfl⟩ := exists_joined shape
  exact .joined known value further

theorem exists_flag (shape : flagShape word = .needsValue) :
    ∃ flag ∈ configFlags, word = .ofString flag := by
  rcases flagShape_cases word with ⟨other, -⟩ | ⟨other, -⟩ | ⟨-, named⟩
  · cases shape.symm.trans other
  · cases shape.symm.trans other
  · exact named

end Shapes

/-- The words are split in two where the groups end. -/
theorem splitWords_spec (words : List RawText) :
    (splitWords words).1 ++ (splitWords words).2 = words ∧
      FlagGroups (splitWords words).1 ∧
      ∀ word, (splitWords words).2.head? = some word → ¬ BeginsGroup word := by
  fun_induction splitWords words with
  | case1 => exact ⟨rfl, .nil, nofun⟩
  | case2 word plain =>
      refine ⟨rfl, .nil, ?_⟩
      rintro first ⟨⟩
      exact not_beginsGroup plain
  | case3 word shape =>
      refine ⟨rfl, ?_, nofun⟩
      cases kind : flagShape word with
      | none => exact absurd kind shape
      | complete => exact .of_complete kind .nil
      | needsValue =>
          obtain ⟨flag, known, rfl⟩ := exists_flag kind
          exact .unfinished known
  | case4 word second rest plain =>
      refine ⟨rfl, .nil, ?_⟩
      rintro first ⟨⟩
      exact not_beginsGroup plain
  | case5 word second rest shape config command split ih =>
      rw [split] at ih
      obtain ⟨whole, groups, ends⟩ := ih
      exact ⟨congrArg (word :: ·) whole, .of_complete shape groups, ends⟩
  | case6 word second rest shape config command split ih =>
      rw [split] at ih
      obtain ⟨whole, groups, ends⟩ := ih
      obtain ⟨flag, known, rfl⟩ := exists_flag shape
      exact ⟨congrArg (_ :: second :: ·) whole, .separate known second groups, ends⟩

end CommandLine

namespace Run

open CommandLine

/-- The flags stand at the beginning, and all of them are there. -/
theorem flags_spec (arguments : List RawText) :
    ∃ rest, arguments = flags arguments ++ rest ∧ FlagGroups (flags arguments).tail ∧
      ∀ word, rest.head? = some word → ¬ BeginsGroup word := by
  cases arguments with
  | nil => exact ⟨[], rfl, .nil, nofun⟩
  | cons program words =>
      obtain ⟨whole, groups, ends⟩ := splitWords_spec words
      exact ⟨(splitWords words).2, congrArg (program :: ·) whole.symm, groups, ends⟩

end Run

end BusBridge
