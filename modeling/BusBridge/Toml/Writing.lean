import BusBridge.Toml.Text

/-!
# Writing TOML

A document with one key and its text on every line, the text between double quotes.
-/

namespace BusBridge

namespace Toml

/-- How one character is written between double quotes. -/
def escapedChar (character : Char) : List Char :=
  if character = '"' ∨ character = '\\' then ['\\', character]
  else if isControl character then '\\' :: 'u' :: Text.hexPadded 4 character.toNat
  else [character]

def writeText (text : String) : List Char :=
  '"' :: text.toList.flatMap escapedChar ++ ['"']

def writeLine (entry : String × String) : List Char :=
  entry.1.toList ++ ' ' :: '=' :: ' ' :: writeText entry.2 ++ ['\n']

/-- A document that gives these texts to these keys. -/
def write (entries : List (String × String)) : String :=
  String.ofList (entries.flatMap writeLine)

end Toml

end BusBridge
