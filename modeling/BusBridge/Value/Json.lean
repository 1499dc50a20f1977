import BusBridge.Json
import BusBridge.Notification
import BusBridge.Waiting.Wait

/-!
# Values as JSON

Integers and truth values become their own JSON values, texts become strings.  A
double is written with the shortest digits that read back, always with a point or
an exponent, and halfway numbers go to the even digit; what is not finite becomes `null`.
-/

namespace BusBridge

namespace Decimal

/-- The powers of ten of the first digit for which a decimal is written without an
exponent. -/
def isPlainPower (power : Int) : Bool :=
  -5 ≤ power && power ≤ 15

def pointed (decimal : Decimal) : List Char :=
  if decimal.digits = 0 then ['0', '.', '0']
  else if isPlainPower decimal.leadingPower then
    if 0 ≤ decimal.exponent then decimal.plain ++ ['.', '0'] else decimal.plain
  else decimal.scientific

end Decimal

namespace Double

def toJson (number : Double) : Json :=
  match number.magnitude with
  | .notANumber => .null
  | .infinite => .null
  | .finite mantissa exponent =>
    .decimal (number.signed (shortest .even mantissa exponent).pointed)

end Double

namespace Value

def toJson : Value → Json
  | integer _ number => .integer number.val
  | boolean flag => .boolean flag
  | double number => number.toJson
  | string text => .string text
  | other text => .string text

end Value

namespace Arrival

/-- The end of a wait as a JSON object. -/
def toJson (arrival : Arrival) : Json :=
  .object [("signal", .string arrival.signal),
    ("values", .array (arrival.values.map Value.toJson))]

end Arrival

end BusBridge
