import BusBridge.Double.Reading
import BusBridge.Json.Reader

/-!
# Numbers and dates of TOML

It matters only whether a word of a document is a well-formed number, truth value
or date.
-/

namespace BusBridge

namespace Toml

/-- Digits with single underscores between them. -/
def isDigits (isDigit : Char → Bool) : List Char → Bool
  | [] => false
  | [digit] => isDigit digit
  | first :: second :: rest =>
    isDigit first &&
      (if second = '_' then isDigits isDigit rest else isDigits isDigit (second :: rest))

/-- A whole number without superfluous zeros. -/
def isWhole (characters : List Char) : Bool :=
  isDigits Char.isDigit characters && (characters.length = 1 || characters.head? != some '0')

/-- The value of digits in a base, without the underscores between them. -/
def valueOf (base : Nat) (characters : List Char) : Nat :=
  characters.foldl (fun value character =>
    match Json.hexDigit? character with
    | some digit => value * base + digit
    | none => value) 0

def greatestInteger : Nat :=
  Nat.pow 2 63 - 1

def splitSign : List Char → Bool × List Char
  | '-' :: rest => (true, rest)
  | '+' :: rest => (false, rest)
  | rest => (false, rest)

def isDecimalInteger (word : List Char) : Bool :=
  let (negative, digits) := splitSign word
  isWhole digits &&
    decide (valueOf 10 digits ≤ if negative then greatestInteger + 1 else greatestInteger)

def isDigitOf (base : Nat) (character : Char) : Bool :=
  (Json.hexDigit? character).any (· < base)

/-- An integer in base two, eight or sixteen. -/
def isBasedInteger : List Char → Bool
  | '0' :: 'x' :: digits => inBase 16 digits
  | '0' :: 'o' :: digits => inBase 8 digits
  | '0' :: 'b' :: digits => inBase 2 digits
  | _ => false
where
  /-- Digits of a base whose value is not too great. -/
  inBase (base : Nat) (digits : List Char) : Bool :=
    isDigits (isDigitOf base) digits && decide (valueOf base digits ≤ greatestInteger)

/-- The exponent of a number after its letter. -/
def isExponent (characters : List Char) : Bool :=
  isDigits Char.isDigit (splitSign characters).2

def isExponentLetter (character : Char) : Bool :=
  character = 'e' || character = 'E'

/-- A number with a fraction or an exponent, or one of the words for numbers that are
not finite. -/
def isFloat (word : List Char) : Bool :=
  let unsigned := (splitSign word).2
  if unsigned = ['i', 'n', 'f'] || unsigned = ['n', 'a', 'n'] then true
  else
    let mantissa := unsigned.takeWhile fun character => !isExponentLetter character
    let exponent := unsigned.dropWhile fun character => !isExponentLetter character
    let whole := mantissa.takeWhile (· != '.')
    let fraction := mantissa.dropWhile (· != '.')
    isWhole whole &&
      (fraction.isEmpty || isDigits Char.isDigit (fraction.drop 1)) &&
      (exponent.isEmpty || isExponent (exponent.drop 1)) &&
      !(fraction.isEmpty && exponent.isEmpty) &&
      isFinite word
where
  /-- The number is not too great to be finite. -/
  isFinite (word : List Char) : Bool :=
    (Double.read? (String.ofList (word.filter (· != '_')))).any fun number =>
      number.unsignedBits < Double.infiniteBits

def daysIn (year month : Nat) : Nat :=
  if month = 2 then
    if year % 4 = 0 ∧ (year % 100 ≠ 0 ∨ year % 400 = 0) then 29 else 28
  else if month = 4 ∨ month = 6 ∨ month = 9 ∨ month = 11 then 30
  else 31

/-- `count` digits, their value, and what follows them. -/
def takeDigits? (count : Nat) (input : List Char) : Option (Nat × List Char) :=
  let digits := input.take count
  if digits.length = count ∧ digits.all Char.isDigit then
    some (valueOf 10 digits, input.drop count)
  else none

/-- What follows a character. -/
def after? (character : Char) : List Char → Option (List Char)
  | first :: rest => if first = character then some rest else none
  | [] => none

/-- A date, and what follows it. -/
def takeDate? (input : List Char) : Option (List Char) := do
  let (year, rest) ← takeDigits? 4 input
  let (month, rest) ← takeDigits? 2 (← after? '-' rest)
  let (day, rest) ← takeDigits? 2 (← after? '-' rest)
  if 1 ≤ month ∧ month ≤ 12 ∧ 1 ≤ day ∧ day ≤ daysIn year month then some rest else none

/-- The fraction of a second, or nothing, and what follows it. -/
def takeFraction? (input : List Char) : Option (List Char) :=
  match input with
  | '.' :: rest =>
    if (rest.takeWhile Char.isDigit).isEmpty then none else some (rest.dropWhile Char.isDigit)
  | rest => some rest

/-- A time of day, and what follows it. -/
def takeTime? (input : List Char) : Option (List Char) := do
  let (hour, rest) ← takeDigits? 2 input
  let (minute, rest) ← takeDigits? 2 (← after? ':' rest)
  let (second, rest) ← takeDigits? 2 (← after? ':' rest)
  if hour ≤ 23 ∧ minute ≤ 59 ∧ second ≤ 60 then takeFraction? rest else none

/-- The difference from universal time, or nothing, and what follows it. -/
def takeOffset? (input : List Char) : Option (List Char) :=
  match input with
  | sign :: rest =>
    if sign = 'Z' || sign = 'z' then some rest
    else if sign = '+' || sign = '-' then do
      let (hour, rest) ← takeDigits? 2 rest
      let (minute, rest) ← takeDigits? 2 (← after? ':' rest)
      if hour ≤ 23 ∧ minute ≤ 59 then some rest else none
    else some (sign :: rest)
  | [] => some []

/-- A date, a time, or both, and what follows it. -/
def takeMoment? (input : List Char) : Option (List Char) :=
  match takeDate? input with
  | none => takeTime? input
  | some rest =>
    match rest with
    | separator :: time =>
      if separator = 'T' || separator = 't' ||
          (separator = ' ' && (time.head?.any Char.isDigit)) then
        (takeTime? time).bind takeOffset?
      else some rest
    | [] => some []

/-- A character that may stand in a number. -/
def isWordChar (character : Char) : Bool :=
  character.isAlphanum || character = '_' || character = '+' || character = '-' ||
    character = '.'

/-- A number, a truth value or a date, and what follows it. -/
def takeScalar? (input : List Char) : Option (List Char) :=
  match takeMoment? input with
  | some rest => some rest
  | none =>
    let word := input.takeWhile isWordChar
    if word = "true".toList || word = "false".toList || isDecimalInteger word ||
        isBasedInteger word || isFloat word then
      some (input.dropWhile isWordChar)
    else none

end Toml

end BusBridge
