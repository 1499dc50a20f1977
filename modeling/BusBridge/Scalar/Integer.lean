import BusBridge.Scalar

/-!
# Reading an integer

The token is an optional sign and one or more decimal digits.  It is read from
the left, and the first problem on the way is the one that is reported: a digit
that takes the number out of the range, or a character that is not a digit.
-/

namespace BusBridge

/-- Why a token is not a number of an integer type. -/
inductive IntegerFault
  | empty
  | invalidDigit
  | outOfRange
deriving DecidableEq, Repr

namespace IntegerType

def digit? (character : Char) : Option Nat :=
  if character.isDigit then some (character.toNat - '0'.toNat) else none

/-- Append digits to a number, away from zero, while it stays in the range. -/
def appendDigits (type : IntegerType) (negative : Bool) :
    type.Number → List Char → Except IntegerFault type.Number
  | number, [] => .ok number
  | number, character :: rest =>
    match digit? character with
    | none => .error .invalidDigit
    | some digit =>
      let longer := number.val * 10 + if negative then -(digit : Int) else digit
      if contained : type.Contains longer then appendDigits type negative ⟨longer, contained⟩ rest
      else .error .outOfRange

def readDigits (type : IntegerType) (negative : Bool) (digits : List Char) :
    Except IntegerFault type.Number :=
  if digits.isEmpty then .error .invalidDigit
  else appendDigits type negative ⟨0, type.contains_zero⟩ digits

/-- The number that a token denotes.  A minus sign belongs to signed types only. -/
def read (type : IntegerType) (token : String) : Except IntegerFault type.Number :=
  match token.toList with
  | [] => .error .empty
  | '+' :: digits => type.readDigits false digits
  | '-' :: digits => if type.isSigned then type.readDigits true digits else .error .invalidDigit
  | digits => type.readDigits false digits

end IntegerType

end BusBridge
