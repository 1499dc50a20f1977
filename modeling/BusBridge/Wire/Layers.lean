import BusBridge.Wire.Body
import Mathlib.Logic.Function.Iterate

/-!
# Values inside variants

A variant may hold another one.  Every value has a core, the innermost value that is no variant,
and consists of that core with a number of variants around it.
-/

namespace BusBridge

namespace WireValue

/-- The innermost value that is no variant. -/
def core : WireValue → WireValue
  | .variant value => value.core
  | value => value

theorem core_variant (value : WireValue) : value.variant.core = value.core := by
  rw [core]

theorem core_ne_variant (value inner : WireValue) : value.core ≠ .variant inner := by
  fun_induction core value with
  | case1 value ih => exact ih
  | case2 value bare => exact bare inner

theorem core_of_bare {value : WireValue} (bare : ∀ inner, value ≠ .variant inner) :
    value.core = value :=
  core.eq_2 value bare

theorem core_tuple (fields : List WireValue) : (tuple fields).core = .tuple fields :=
  core_of_bare nofun

@[simp]
theorem core_iterate_variant (layers : Nat) (value : WireValue) :
    (variant^[layers] value).core = value.core := by
  induction layers with
  | zero => rfl
  | succ layers ih => rw [Function.iterate_succ_apply', core_variant, ih]

theorem exists_layers (value : WireValue) : ∃ layers, value = variant^[layers] value.core := by
  fun_induction core value with
  | case1 value ih =>
      obtain ⟨layers, same⟩ := ih
      exact ⟨layers + 1, by rw [Function.iterate_succ_apply', ← same]⟩
  | case2 value bare => exact ⟨0, rfl⟩

/-- A value means what its core means. -/
theorem toValue_core (value : WireValue) : value.core.toValue = value.toValue := by
  fun_induction core value with
  | case1 value ih => rw [ih, toValue]
  | case2 value bare => rfl

/-- The values differ at most in the number of variants around them. -/
def LayersApart (first second : WireValue) : Prop :=
  ∃ inner more fewer, first = variant^[more] inner ∧ second = variant^[fewer] inner

theorem layersApart_iff {first second : WireValue} :
    LayersApart first second ↔ first.core = second.core := by
  constructor
  · rintro ⟨inner, more, fewer, rfl, rfl⟩
    rw [core_iterate_variant, core_iterate_variant]
  · intro same
    obtain ⟨more, firstLayers⟩ := first.exists_layers
    obtain ⟨fewer, secondLayers⟩ := second.exists_layers
    exact ⟨first.core, more, fewer, firstLayers, same ▸ secondLayers⟩

/-- The text of a value is no shorter than that of its core. -/
theorem length_text_core_le (value : WireValue) : value.core.text.length ≤ value.text.length := by
  fun_induction core value with
  | case1 value ih =>
      refine Nat.le_trans ih ?_
      rw [text, text, render, String.length_append, String.length_append]
      omega
  | case2 value bare => exact Nat.le_refl _

end WireValue

end BusBridge
