import BusBridge.Double

/-!
# The shortest decimal that reads back

Every positive double stands for the interval of reals that round to it.  Among
the decimal grids `10 ^ exponent` the coarsest one with a point in that interval
is taken, and on it the point nearest to the number; a rule says which one is taken if
the number is halfway between two points.  All comparisons are made in natural numbers
after multiplying out the denominators.
-/

namespace BusBridge

/-- The decimal `digits * 10 ^ exponent`. -/
structure Decimal where
  digits : Nat
  exponent : Int
deriving DecidableEq, Repr, Inhabited

namespace Decimal

/-- The digits without an exponent, and with a point only where it is needed. -/
def plain (decimal : Decimal) : List Char :=
  let digits := Nat.toDigits 10 decimal.digits
  if 0 ≤ decimal.exponent then digits ++ List.replicate decimal.exponent.toNat '0'
  else
    let places := (-decimal.exponent).toNat
    if places < digits.length then
      digits.take (digits.length - places) ++ '.' :: digits.drop (digits.length - places)
    else '0' :: '.' :: List.replicate (places - digits.length) '0' ++ digits

/-- The power of ten of the first digit. -/
def leadingPower (decimal : Decimal) : Int :=
  (Nat.toDigits 10 decimal.digits).length + decimal.exponent - 1

/-- One digit before the point, and the power of ten with its sign. -/
def scientific (decimal : Decimal) : List Char :=
  let power := decimal.leadingPower
  let sign := if power < 0 then '-' else '+'
  let fraction := (Nat.toDigits 10 decimal.digits).drop 1
  (Nat.toDigits 10 decimal.digits).take 1 ++ (if fraction.isEmpty then [] else '.' :: fraction) ++
    'e' :: sign :: Nat.toDigits 10 power.natAbs

end Decimal

/-- Which of two points a number goes to that is halfway between them. -/
inductive HalfwayRule
  /-- The point farther from zero. -/
  | away
  /-- The point with an even last digit. -/
  | even
deriving DecidableEq, Repr

namespace HalfwayRule

/-- The point for a number halfway between `below` and the next one. -/
def choose (below : Nat) : HalfwayRule → Nat
  | away => below + 1
  | even => if below % 2 = 0 then below else below + 1

end HalfwayRule

namespace Double

/-- The point of the grid `10 ^ gridExponent` that rounds to the positive number
`mantissa * 2 ^ exponent`, the nearer one if there are several. -/
def nearestOnGrid (halfway : HalfwayRule) (mantissa : Nat) (exponent gridExponent : Int) :
    Option Nat :=
  let quarter := exponent - 2
  let step := Nat.pow 10 gridExponent.toNat * Nat.pow 2 (-quarter).toNat
  let unit := Nat.pow 2 quarter.toNat * Nat.pow 10 (-gridExponent).toNat
  let belowGap := if mantissa = hiddenBit ∧ minExponent < exponent then 1 else 2
  let low := (4 * mantissa - belowGap) * unit
  let high := (4 * mantissa + 2) * unit
  let rounds (point : Nat) : Bool :=
    if mantissa % 2 = 0 then low ≤ point * step && point * step ≤ high
    else low < point * step && point * step < high
  let value := 4 * mantissa * unit
  let below := value / step
  match rounds below, rounds (below + 1) with
  | true, true =>
    let middle := (2 * below + 1) * step
    some (if 2 * value < middle then below
      else if 2 * value = middle then halfway.choose below else below + 1)
  | true, false => some below
  | false, true => some (below + 1)
  | false, false => none

/-- An exponent whose power of ten is beyond the number `mantissa * 2 ^ exponent`. -/
def coarsestExponent (mantissa : Nat) (exponent : Int) : Int :=
  ((mantissa.log2 + exponent + 1) * 30103).fdiv 100000 + 2

/-- The decimal with the fewest digits that rounds to `mantissa * 2 ^ exponent`. -/
def shortest (halfway : HalfwayRule) (mantissa : Nat) (exponent : Int) : Decimal :=
  if mantissa = 0 then ⟨0, 0⟩
  else
    let coarsest := coarsestExponent mantissa exponent
    ((List.range 24).findSome? fun (finer : Nat) =>
      (nearestOnGrid halfway mantissa exponent (coarsest - finer)).map
        fun digits => (⟨digits, coarsest - finer⟩ : Decimal)).getD ⟨0, 0⟩

/-- A text of the absolute value with the sign of the number before it. -/
def signed (number : Double) (absolute : List Char) : String :=
  String.ofList (if number.isNegative then '-' :: absolute else absolute)

/-- The number in plain decimal digits, never with an exponent.  Halfway numbers go away
from zero. -/
def display (number : Double) : String :=
  match number.magnitude with
  | .notANumber => "NaN"
  | .infinite => number.signed ['i', 'n', 'f']
  | .finite mantissa exponent => number.signed (shortest .away mantissa exponent).plain

def isWhole (number : Double) : Bool :=
  match number.magnitude with
  | .finite mantissa exponent => decide (0 ≤ (shortest .away mantissa exponent).exponent)
  | _ => false

end Double

end BusBridge
