import BusBridge.Double

/-!
# Reading a decimal as a double

A decimal `digits * 10 ^ exponent` becomes the nearest double, and the one with
the even mantissa where two are equally near.  The quotient of two natural
numbers is rounded exactly, so the length of the decimal does not matter.

A number is written with an optional sign, digits, an optional point among or
around them, and an optional exponent; the words `inf`, `infinity` and `nan` are
read in any case.
-/

namespace BusBridge

namespace Double

/-- The quotient rounded to the nearest natural number, a half to the even one. -/
def divideHalfEven (numerator denominator : Nat) : Nat :=
  let quotient := numerator / denominator
  let doubled := 2 * (numerator % denominator)
  if doubled < denominator then quotient
  else if doubled = denominator then quotient + quotient % 2
  else quotient + 1

/-- Multiply a fraction, given as numerator and denominator, by `2 ^ power`. -/
def scaleByPowerOfTwo (numerator denominator : Nat) (power : Int) : Nat × Nat :=
  if 0 ≤ power then (numerator * Nat.pow 2 power.toNat, denominator)
  else (numerator, denominator * Nat.pow 2 (-power).toNat)

/-- The exponent at which a positive fraction gets a mantissa of 53 bits, or the
least exponent if the fraction is too small for that. -/
def exponentFor (numerator denominator : Nat) : Int :=
  let estimate := (numerator.log2 : Int) - denominator.log2 - 53
  let scaled := scaleByPowerOfTwo numerator denominator (-estimate)
  let exponent := if scaled.1 / scaled.2 < Nat.pow 2 53 then estimate else estimate + 1
  max exponent minExponent

/-- The bits below the sign of the double nearest to a positive fraction. -/
def nearestBits (numerator denominator : Nat) : Nat :=
  let exponent := exponentFor numerator denominator
  let scaled := scaleByPowerOfTwo numerator denominator (-exponent)
  let mantissa := divideHalfEven scaled.1 scaled.2
  min ((exponent - minExponent).toNat * hiddenBit + mantissa) infiniteBits

/-- The double nearest to `digits * 10 ^ exponent`.  Where the power of ten alone
settles the answer, far outside the range of the format, it is not computed. -/
def ofDecimal (negative : Bool) (digits : Nat) (exponent : Int) : Double :=
  let length : Int := (Nat.toDigits 10 digits).length
  if digits = 0 then ofUnsignedBits negative 0
  else if 400 < length + exponent then infinity negative
  else if length + exponent < -400 then ofUnsignedBits negative 0
  else if 0 ≤ exponent then
    ofUnsignedBits negative (nearestBits (digits * Nat.pow 10 exponent.toNat) 1)
  else ofUnsignedBits negative (nearestBits digits (Nat.pow 10 (-exponent).toNat))

/-- The number that a list of decimal digits denotes. -/
def digitsValue (digits : List Char) : Nat :=
  digits.foldl (fun value digit => value * 10 + (digit.toNat - '0'.toNat)) 0

/-- A sign at the beginning of a text, and the rest. -/
def splitSign : List Char → Bool × List Char
  | '-' :: rest => (true, rest)
  | '+' :: rest => (false, rest)
  | rest => (false, rest)

/-- The exponent part of a number: nothing, or the letter and a signed number. -/
def readExponent : List Char → Option Int
  | [] => some 0
  | letter :: rest =>
    if letter = 'e' || letter = 'E' then
      let (negative, digits) := splitSign rest
      if digits.isEmpty || digits.any (fun digit => ! digit.isDigit) then none
      else
        let value : Int := digitsValue digits
        some (if negative then -value else value)
    else none

/-- An unsigned number in decimal digits. -/
def readDecimal (negative : Bool) (characters : List Char) : Option Double :=
  let whole := characters.takeWhile Char.isDigit
  let afterWhole := characters.dropWhile Char.isDigit
  let (fraction, afterFraction) := match afterWhole with
    | '.' :: rest => (rest.takeWhile Char.isDigit, rest.dropWhile Char.isDigit)
    | rest => ([], rest)
  if whole.isEmpty && fraction.isEmpty then none
  else (readExponent afterFraction).map fun exponent =>
    ofDecimal negative (digitsValue (whole ++ fraction)) (exponent - fraction.length)

/-- The double that a text denotes, if the text is a number. -/
def read? (text : String) : Option Double :=
  let (negative, unsigned) := splitSign text.toList
  let word := String.ofList (unsigned.map Char.toLower)
  if word == "inf" || word == "infinity" then some (infinity negative)
  else if word == "nan" then some (notANumber negative)
  else readDecimal negative unsigned

end Double

end BusBridge
