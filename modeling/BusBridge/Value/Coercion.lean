import BusBridge.Double.Reading
import BusBridge.Scalar.Integer
import BusBridge.Value

/-!
# From tokens to values

A token of the command line is converted to the type that the interface declares
for it.  A type is declared by a signature; only the ten scalar types can be
converted to, and every failure keeps the token and the reason.
-/

namespace BusBridge

/-- Why a token does not denote a value of a scalar type. -/
inductive CoercionFault
  | integer (fault : IntegerFault)
  | notBoolean
  | emptyDouble
  | invalidDouble
deriving DecidableEq, Repr

/-- The failure to convert one token. -/
inductive CoercionError
  /-- The signature names no scalar type. -/
  | unsupportedType (tag : String)
  /-- The token does not denote a value of the type. -/
  | invalidArgument (token : String) (type : ScalarType) (fault : CoercionFault)
deriving DecidableEq, Repr

namespace CoercionFault

def reason : CoercionFault → String
  | integer .empty => "cannot parse integer from empty string"
  | integer .invalidDigit => "invalid digit found in string"
  | integer .outOfRange => "out of range"
  | notBoolean => "expected one of true/false, t/f or 1/0"
  | emptyDouble => "cannot parse float from empty string"
  | invalidDouble => "invalid float literal"

end CoercionFault

namespace CoercionError

def message : CoercionError → String
  | unsupportedType tag => s!"unsupported bus type '{tag}'"
  | invalidArgument token type fault =>
    let tag := type.tag
    let reason := fault.reason
    s!"could not convert argument '{token}' to type {tag}: {reason}"

/-- The signature could not be converted to at all. -/
def isUnsupported : CoercionError → Bool
  | unsupportedType _ => true
  | invalidArgument _ _ _ => false

end CoercionError

namespace Value

def readBoolean? (token : String) : Option Bool :=
  if ["1", "t", "T", "true", "TRUE", "True"].contains token then some true
  else if ["0", "f", "F", "false", "FALSE", "False"].contains token then some false
  else none

def read (type : ScalarType) (token : String) : Except CoercionFault Value :=
  match type with
  | .integer type =>
    match type.read token with
    | .ok number => .ok (.integer type number)
    | .error fault => .error (.integer fault)
  | .boolean =>
    match readBoolean? token with
    | some flag => .ok (.boolean flag)
    | none => .error .notBoolean
  | .double =>
    match Double.read? token with
    | some number => .ok (.double number)
    | none => .error (if token.isEmpty then .emptyDouble else .invalidDouble)
  | .string => .ok (.string token)

/-- Convert a token to the type that a signature names. -/
def coerce (tag token : String) : Except CoercionError Value :=
  match ScalarType.ofTag? tag with
  | none => .error (.unsupportedType tag)
  | some type =>
    match read type token with
    | .ok value => .ok value
    | .error fault => .error (.invalidArgument token type fault)

theorem type?_of_read {type : ScalarType} {token : String} {value : Value}
    (denoted : read type token = .ok value) : value.type? = some type := by
  cases type with
  | string =>
      obtain rfl := Except.ok.inj denoted
      rfl
  | _ =>
      rw [read] at denoted
      split at denoted
      · obtain rfl := Except.ok.inj denoted
        rfl
      · cases denoted

theorem coerce_eq_ok_iff {tag token : String} {value : Value} :
    coerce tag token = .ok value ↔
      ∃ type : ScalarType, tag = String.singleton type.tag ∧ read type token = .ok value := by
  rw [coerce]
  cases named : ScalarType.ofTag? tag with
  | none =>
      refine ⟨nofun, ?_⟩
      rintro ⟨type, spelled, -⟩
      rw [ScalarType.ofTag?_eq_some_iff.mpr spelled] at named
      cases named
  | some type =>
      have spelled := ScalarType.ofTag?_eq_some_iff.mp named
      constructor
      · intro converted
        refine ⟨type, spelled, ?_⟩
        cases denoted : read type token with
        | ok value => simpa [denoted] using converted
        | error fault => simp [denoted] at converted
      · rintro ⟨other, same, denoted⟩
        rw [ScalarType.ofTag?_eq_some_iff.mpr same] at named
        obtain rfl := Option.some.inj named
        simp [denoted]

end Value

end BusBridge
