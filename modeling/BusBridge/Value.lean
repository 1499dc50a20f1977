import BusBridge.Double.Shortest
import BusBridge.Scalar

/-!
# Values

What a method takes and gives back, and what a signal carries: a scalar, or the
text of something that is no scalar.
-/

namespace BusBridge

/-- A value that is exchanged with the remote object. -/
inductive Value
  | integer (type : IntegerType) (number : type.Number)
  | boolean (flag : Bool)
  | double (number : Double)
  | string (text : String)
  /-- A value of a type that is no scalar, as text. -/
  | other (text : String)
deriving DecidableEq, Repr

namespace Value

instance : Inhabited Value :=
  ⟨.other ""⟩

def type? : Value → Option ScalarType
  | integer type _ => some (.integer type)
  | boolean _ => some .boolean
  | double _ => some .double
  | string _ => some .string
  | other _ => none

/-- The text of a value: decimal digits, `true` or `false`, or the text itself. -/
def display : Value → String
  | integer _ number => toString number.val
  | boolean flag => if flag then "true" else "false"
  | double number => number.display
  | string text => text
  | other text => text

end Value

end BusBridge
