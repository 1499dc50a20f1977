import BusBridge.Text.Unprintable

/-!
# Quoted texts

A text between double quotes in which the quote, the backslash and the control
characters of a line are escaped, and every other unprintable character is shown
by its code in hexadecimal.
-/

namespace BusBridge

namespace Text

/-- The digits of a number in base 16, in lower case. -/
def hexDigits (number : Nat) : List Char :=
  Nat.toDigits 16 number

/-- A number in base 16 with at least `width` digits. -/
def hexPadded (width number : Nat) : List Char :=
  let digits := hexDigits number
  List.replicate (width - digits.length) '0' ++ digits

/-- How one character is shown inside a quoted text. -/
def quotedChar (character : Char) : List Char :=
  if character = '"' then ['\\', '"']
  else if character = '\\' then ['\\', '\\']
  else if character = '\n' then ['\\', 'n']
  else if character = '\r' then ['\\', 'r']
  else if character = '\t' then ['\\', 't']
  else if character = '\x00' then ['\\', '0']
  else if isUnprintable character then
    ['\\', 'u', '\x7b'] ++ hexDigits character.toNat ++ ['\x7d']
  else [character]

def quoted (text : String) : String :=
  String.ofList ('"' :: text.toList.flatMap quotedChar ++ ['"'])

end Text

end BusBridge
