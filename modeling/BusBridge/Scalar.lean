/-!
# Scalar types

The ten types that a command-line token can be converted to.  Seven of them are
integers of a fixed width; each is named on the bus by one letter.
-/

namespace BusBridge

inductive IntegerType
  | byte
  | int16
  | uint16
  | int32
  | uint32
  | int64
  | uint64
deriving DecidableEq, Repr, Inhabited

namespace IntegerType

def tag : IntegerType → Char
  | byte => 'y'
  | int16 => 'n'
  | uint16 => 'q'
  | int32 => 'i'
  | uint32 => 'u'
  | int64 => 'x'
  | uint64 => 't'

def width : IntegerType → Nat
  | byte => 8
  | int16 | uint16 => 16
  | int32 | uint32 => 32
  | int64 | uint64 => 64

def isSigned : IntegerType → Bool
  | int16 | int32 | int64 => true
  | byte | uint16 | uint32 | uint64 => false

def least (type : IntegerType) : Int :=
  if type.isSigned then -Int.pow 2 (type.width - 1) else 0

def greatest (type : IntegerType) : Int :=
  if type.isSigned then Int.pow 2 (type.width - 1) - 1 else Int.pow 2 type.width - 1

def Contains (type : IntegerType) (number : Int) : Prop :=
  type.least ≤ number ∧ number ≤ type.greatest

instance (type : IntegerType) (number : Int) : Decidable (type.Contains number) :=
  inferInstanceAs (Decidable (_ ∧ _))

def Number (type : IntegerType) : Type :=
  { number : Int // type.Contains number }

instance (type : IntegerType) : DecidableEq type.Number :=
  inferInstanceAs (DecidableEq { number : Int // type.Contains number })

instance (type : IntegerType) : Repr type.Number where
  reprPrec number precedence := reprPrec number.val precedence

theorem contains_zero (type : IntegerType) : type.Contains 0 := by
  cases type <;> decide

theorem contains_uint64 {number : Nat} (below : number < Nat.pow 2 64) :
    uint64.Contains number := by
  have greatest : uint64.greatest = 18446744073709551615 := by decide
  have least : uint64.least = 0 := by decide
  have size : Nat.pow 2 64 = 18446744073709551616 := by decide
  rw [Contains, greatest, least]
  omega

end IntegerType

/-- The types that a token can be converted to. -/
inductive ScalarType
  | integer (type : IntegerType)
  | boolean
  | double
  | string
deriving DecidableEq, Repr, Inhabited

namespace ScalarType

def tag : ScalarType → Char
  | integer type => type.tag
  | boolean => 'b'
  | double => 'd'
  | string => 's'

def all : List ScalarType :=
  [.integer .byte, .boolean, .integer .int16, .integer .uint16, .integer .int32,
    .integer .uint32, .integer .int64, .integer .uint64, .double, .string]

theorem mem_all (type : ScalarType) : type ∈ all := by
  rcases type with type | _ | _ | _
  · cases type <;> decide
  all_goals decide

theorem tag_injective {first second : ScalarType} (same : first.tag = second.tag) :
    first = second := by
  have distinct : ∀ one ∈ all, ∀ other ∈ all, one.tag = other.tag → one = other := by decide
  exact distinct first (mem_all first) second (mem_all second) same

/-- The type that a signature of one letter names. -/
def ofTag? (tag : String) : Option ScalarType :=
  all.find? fun type => tag == String.singleton type.tag

theorem ofTag?_eq_some_iff {tag : String} {type : ScalarType} :
    ofTag? tag = some type ↔ tag = String.singleton type.tag := by
  constructor
  · intro named
    simpa using List.find?_some named
  · rintro rfl
    -- Some type is found for the letter, and no two types have one letter.
    have known : (ofTag? (String.singleton type.tag)).isSome := by
      rw [ofTag?, List.find?_isSome]
      exact ⟨type, mem_all type, beq_self_eq_true _⟩
    obtain ⟨found, named⟩ := Option.isSome_iff_exists.mp known
    have same : String.singleton type.tag = String.singleton found.tag := by
      simpa using List.find?_some named
    rw [named, tag_injective (String.singleton_inj.mp same)]

end ScalarType

end BusBridge
