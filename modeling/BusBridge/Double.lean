/-!
# Double precision numbers

A number in the IEEE 754 format binary64 is given by its 64 bits.  Everything
that is done with such numbers here, reading them from decimals, writing them as
decimals and ordering them, is exact arithmetic on the two integers that the bits
stand for.
-/

namespace BusBridge

/-- A number in the format binary64. -/
structure Double where
  bits : UInt64
deriving DecidableEq, Repr, Inhabited

namespace Double

/-- What the bits say apart from the sign. -/
inductive Magnitude
  | notANumber
  | infinite
  /-- The number `mantissa * 2 ^ exponent`. -/
  | finite (mantissa : Nat) (exponent : Int)
deriving DecidableEq, Repr

/-- The least exponent of a finite number, that of the subnormal ones. -/
def minExponent : Int :=
  -1074

/-- The weight of the hidden bit of a mantissa. -/
def hiddenBit : Nat :=
  Nat.pow 2 52

/-- The bits below the sign. -/
def unsignedBits (number : Double) : Nat :=
  number.bits.toNat % Nat.pow 2 63

def isNegative (number : Double) : Bool :=
  number.bits.toNat / Nat.pow 2 63 == 1

/-- The number without its sign. -/
def magnitude (number : Double) : Magnitude :=
  let exponentField := number.unsignedBits / hiddenBit
  let fraction := number.unsignedBits % hiddenBit
  if exponentField = 2047 then
    if fraction = 0 then .infinite else .notANumber
  else if exponentField = 0 then .finite fraction minExponent
  else .finite (hiddenBit + fraction) (minExponent + (exponentField - 1 : Nat))

/-- The number with the given sign and the given bits below it. -/
def ofUnsignedBits (negative : Bool) (unsigned : Nat) : Double :=
  ⟨UInt64.ofNat (unsigned + if negative then Nat.pow 2 63 else 0)⟩

def infiniteBits : Nat :=
  2047 * hiddenBit

def infinity (negative : Bool) : Double :=
  ofUnsignedBits negative infiniteBits

/-- The quiet not-a-number. -/
def notANumber (negative : Bool) : Double :=
  ofUnsignedBits negative (infiniteBits + hiddenBit / 2)

/-- The position of a number in the order by value.  Both zeros stand at the same
place; a not-a-number stands outside the infinite number of its sign. -/
def rank (number : Double) : Int :=
  if number.isNegative then -(number.unsignedBits : Int) else number.unsignedBits

end Double

end BusBridge
