import BusBridge.Text.Quoted

/-!
# JSON documents

The data model of JSON and its compact written form, without any blanks.  A
number that is no integer is kept as it is written.
-/

namespace BusBridge

inductive Json
  | null
  | boolean (flag : Bool)
  | integer (number : Int)
  /-- A number with a fraction or an exponent, or a negative zero, as written. -/
  | decimal (source : String)
  | string (text : String)
  /-- A string, or an object with a key, that holds half a surrogate pair, as
  written.  It is well-formed and denotes nothing. -/
  | unpaired (source : String)
  | array (items : List Json)
  | object (members : List (String × Json))
deriving Repr, Inhabited

namespace Json

/-- How one character is written inside a string. -/
def escapedChar (character : Char) : List Char :=
  if character = '"' then ['\\', '"']
  else if character = '\\' then ['\\', '\\']
  else if character = '\x08' then ['\\', 'b']
  else if character = '\x0c' then ['\\', 'f']
  else if character = '\n' then ['\\', 'n']
  else if character = '\r' then ['\\', 'r']
  else if character = '\t' then ['\\', 't']
  else if character.toNat < 0x20 then '\\' :: 'u' :: Text.hexPadded 4 character.toNat
  else [character]

def writeString (text : String) : List Char :=
  '"' :: text.toList.flatMap escapedChar ++ ['"']

mutual

/-- The compact written form of a document. -/
def write : Json → List Char
  | null => "null".toList
  | boolean true => "true".toList
  | boolean false => "false".toList
  | integer number => (toString number).toList
  | decimal source => source.toList
  | string text => writeString text
  | unpaired source => source.toList
  | array [] => ['[', ']']
  | array (item :: items) => '[' :: write item ++ writeItems items
  | object [] => ['\x7b', '\x7d']
  | object ((key, value) :: members) =>
    '\x7b' :: writeString key ++ ':' :: write value ++ writeMembers members

/-- The items of an array after the first, and the closing bracket. -/
def writeItems : List Json → List Char
  | [] => [']']
  | item :: items => ',' :: write item ++ writeItems items

/-- The members of an object after the first, and the closing brace. -/
def writeMembers : List (String × Json) → List Char
  | [] => ['\x7d']
  | (key, value) :: members =>
    ',' :: writeString key ++ ':' :: write value ++ writeMembers members

end

def compact (document : Json) : String :=
  String.ofList document.write

end Json

end BusBridge
