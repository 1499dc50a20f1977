import BusBridge.Text.Blank

/-!
# Choices by name

What has only a few values is given by the name of one of them.  Such a name can be read as it is
written, or with its letters in any case.
-/

namespace BusBridge

/-- All values of a type with their names, which differ by more than the case of their letters. -/
structure NamedChoices (α : Type) where
  all : List α
  name : α → String
  mem_all : ∀ value, value ∈ all
  distinct : ∀ first second, Text.equalIgnoringCase (name first) (name second) = true →
    first = second

namespace NamedChoices

variable {α : Type} (choices : NamedChoices α)

def names : List String :=
  choices.all.map choices.name

def ofName? (name : String) : Option α :=
  choices.all.find? fun value => choices.name value = name

def ofNameInAnyCase? (name : String) : Option α :=
  choices.all.find? fun value => Text.equalIgnoringCase (choices.name value) name

/-- A name in the spelling that is written; any other text stays as it is. -/
def spelling (text : String) : String :=
  ((choices.ofNameInAnyCase? text).map choices.name).getD text

variable {text : String} {value : α}

/-- Where only one value can be meant, the first that is meant is that one. -/
theorem find?_eq_some_iff {means : α → Bool}
    (unique : ∀ first second, means first = true → means second = true → first = second) :
    choices.all.find? means = some value ↔ means value = true := by
  constructor
  · exact List.find?_some
  · intro meant
    cases found : choices.all.find? means with
    | none => exact absurd meant (List.find?_eq_none.mp found value (choices.mem_all value))
    | some other => exact congrArg some (unique other value (List.find?_some found) meant)

theorem ofNameInAnyCase?_eq_some_iff :
    choices.ofNameInAnyCase? text = some value ↔
      Text.equalIgnoringCase (choices.name value) text = true :=
  choices.find?_eq_some_iff fun first second one other =>
    choices.distinct first second (Text.equalIgnoringCase_of_common one other)

theorem ofName?_eq_some_iff :
    choices.ofName? text = some value ↔ text = choices.name value := by
  rw [ofName?, choices.find?_eq_some_iff, decide_eq_true_eq, eq_comm]
  intro first second named namedToo
  have same : choices.name first = choices.name second :=
    (of_decide_eq_true named).trans (of_decide_eq_true namedToo).symm
  exact choices.distinct first second (same ▸ Text.equalIgnoringCase_refl _)

end NamedChoices

end BusBridge
