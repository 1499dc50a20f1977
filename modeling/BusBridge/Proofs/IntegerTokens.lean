import BusBridge.Proofs.IntegerReading
import BusBridge.Proofs.Rejections

/-!
# Which tokens are integers

A token converts to an integer type if and only if it is a decimal of a number in the range of
the type.  The length of the token does not matter: zeros in front change nothing, and both
ends of the range belong to it.
-/

namespace BusBridge

namespace IntegerType

theorem isSigned_of_contains {type : IntegerType} {number : Int} (negative : number < 0)
    (contained : type.Contains number) : type.isSigned = true := by
  cases sign : type.isSigned with
  | true => rfl
  | false =>
      have least : type.least = 0 := by
        rw [least, sign]
        rfl
      have above := contained.1
      omega

theorem contains_least (type : IntegerType) : type.Contains type.least := by
  cases type <;> decide

theorem contains_greatest (type : IntegerType) : type.Contains type.greatest := by
  cases type <;> decide

/-- The decimal of a number, with some more zeros in front of its digits. -/
def padded (number : Int) (zeros : Nat) : List Char :=
  (if number < 0 then ['-'] else []) ++ List.replicate zeros '0' ++
    Nat.toDigits 10 number.natAbs

theorem ofDigitChars_zeros (zeros : Nat) (digits : List Char) :
    Nat.ofDigitChars 10 (List.replicate zeros '0' ++ digits) 0 =
      Nat.ofDigitChars 10 digits 0 := by
  induction zeros with
  | zero => rfl
  | succ zeros ih =>
      rw [List.replicate_succ, List.cons_append, Nat.ofDigitChars_cons]
      exact ih

/-- A number of the type is denoted by its decimal, however many zeros stand in front. -/
theorem denotes_padded {type : IntegerType} (number : type.Number) (zeros : Nat) :
    type.Denotes (padded number.val zeros) number.val := by
  let digits := List.replicate zeros '0' ++ Nat.toDigits 10 number.val.natAbs
  have some : digits ≠ [] :=
    List.append_ne_nil_of_right_ne_nil _ Nat.toDigits_ne_nil
  have isDigit : ∀ character ∈ digits, character.isDigit = true := by
    intro character member
    rcases List.mem_append.mp member with zero | digit
    · rw [List.eq_of_mem_replicate zero]
      rfl
    · exact Nat.isDigit_of_mem_toDigits (by decide) (by decide) digit
  have magnitude : Nat.ofDigitChars 10 digits 0 = number.val.natAbs := by
    rw [ofDigitChars_zeros, Nat.ofDigitChars_toDigits (by decide) (by decide)]
  rw [padded, List.append_assoc]
  by_cases negative : number.val < 0
  · have allowed := isSigned_of_contains negative number.property
    have denoted := Denotes.minus allowed some isDigit
    have value : -(Nat.ofDigitChars 10 digits 0 : Int) = number.val := by
      omega
    rw [value] at denoted
    rwa [if_pos negative]
  · have denoted := @Denotes.bare type digits some isDigit
    have value : (Nat.ofDigitChars 10 digits 0 : Int) = number.val := by
      omega
    rw [value] at denoted
    rwa [if_neg negative]

end IntegerType

namespace Value

section Integers

variable {type : IntegerType} {token : String} {value : Value}

theorem read_integer_eq_ok_iff :
    read (.integer type) token = .ok value ↔
      ∃ number, type.Denotes token.toList number.val ∧ value = .integer type number := by
  simp only [← IntegerType.read_eq_ok_iff]
  rw [read]
  cases type.read token with
  | ok number => simp [eq_comm]
  | error fault => simp

theorem read_integer_eq_error {fault : CoercionFault}
    (failed : read (.integer type) token = .error fault) : ∃ reason, fault = .integer reason := by
  rw [read] at failed
  cases denoted : type.read token with
  | ok number => simp [denoted] at failed
  | error reason => exact ⟨reason, by simpa [denoted, eq_comm] using failed⟩

/-- The letter of an integer type names this type. -/
theorem coerce_integer_eq_ok_iff :
    coerce (String.singleton type.tag) token = .ok value ↔
      ∃ number, type.Denotes token.toList number.val ∧ value = .integer type number := by
  rw [← read_integer_eq_ok_iff, coerce_eq_ok_iff]
  constructor
  · rintro ⟨other, spelled, denoted⟩
    have same : ScalarType.integer type = other :=
      ScalarType.tag_injective (String.singleton_inj.mp spelled)
    rwa [same]
  · intro denoted
    exact ⟨.integer type, rfl, denoted⟩

end Integers

/-- A token converts to an integer type exactly if it denotes a number in the range of the
type, and the value is this number with this type.  Every other token is reported as it is,
with the type and a reason.  Each number of the range, its ends included, has tokens with any
number of zeros in front. -/
theorem integer_tokens_are_decimals_in_range (type : IntegerType) (token : String) :
    (∀ value, coerce (String.singleton type.tag) token = .ok value ↔
        ∃ number : type.Number, type.Denotes token.toList number.val ∧
          value = .integer type number) ∧
      ((∀ number : Int, type.Denotes token.toList number → ¬ type.Contains number) →
        ∃ reason, coerce (String.singleton type.tag) token =
          .error (.invalidArgument token (.integer type) (.integer reason))) ∧
      (∀ (number : type.Number) (zeros : Nat),
        coerce (String.singleton type.tag) (String.ofList (IntegerType.padded number.val zeros)) =
          .ok (.integer type number)) ∧
      type.Contains type.least ∧ type.Contains type.greatest := by
  refine ⟨fun value => coerce_integer_eq_ok_iff, fun outside => ?_, fun number zeros => ?_,
    type.contains_least, type.contains_greatest⟩
  · cases converted : coerce (String.singleton type.tag) token with
    | ok value =>
        obtain ⟨number, denotes, -⟩ := coerce_integer_eq_ok_iff.mp converted
        exact absurd number.property (outside number.val denotes)
    | error failure =>
        rcases coerce_eq_error_iff.mp converted with ⟨-, unknown⟩ | ⟨other, fault, named⟩
        · exact absurd rfl (unknown (.integer type))
        · obtain ⟨spelled, failed, rfl⟩ := named
          obtain rfl : ScalarType.integer type = other :=
            ScalarType.tag_injective (String.singleton_inj.mp spelled)
          obtain ⟨reason, rfl⟩ := read_integer_eq_error failed
          exact ⟨reason, rfl⟩
  · rw [coerce_integer_eq_ok_iff, String.toList_ofList]
    exact ⟨number, IntegerType.denotes_padded number zeros, rfl⟩

/-- The least number of a signed type, with zeros in front. -/
example : coerce "n" "-0032768" = .ok (.integer .int16 ⟨-32768, by decide⟩) := by
  rfl

end Value

end BusBridge
